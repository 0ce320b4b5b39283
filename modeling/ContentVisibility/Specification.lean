import ContentVisibility.Viewer.Basic

/-! # Specifications

A specification is anything that a viewer can be judged by.  Two of them are put
together by the function `and` and one is turned round by `not`; wrapped as
clauses, they are put together by the operator `&&&` and turned round by the
negation of clauses.  A conjunction judges by its right side only if its left side
holds. -/
set_option autoImplicit false

namespace ContentVisibility

class Specification (α : Type) where
  holds : α → Viewer → Traced Bool

namespace Specification

structure Conjunction (α β : Type) where
  left : α
  right : β

structure Negation (α : Type) where
  inner : α

variable {α β : Type}

def and (a : α) (b : β) : Conjunction α β := ⟨a, b⟩

def not (a : α) : Negation α := ⟨a⟩

instance [Specification α] [Specification β] : Specification (Conjunction α β) where
  holds s v := Traced.both (holds s.left v) (holds s.right v)

instance [Specification α] : Specification (Negation α) where
  holds s v := do return !(← holds s.inner v)

end Specification

/-- A specification as an operand of the operators. -/
structure Clause (α : Type) where
  inner : α

namespace Clause

variable {α β : Type}

instance [Specification α] : Specification (Clause α) where
  holds c v := Specification.holds c.inner v

instance : HAnd (Clause α) (Clause β) (Clause (Specification.Conjunction α β)) where
  hAnd a b := ⟨⟨a.inner, b.inner⟩⟩

def not (a : Clause α) : Clause (Specification.Negation α) := ⟨⟨a.inner⟩⟩

end Clause

end ContentVisibility
