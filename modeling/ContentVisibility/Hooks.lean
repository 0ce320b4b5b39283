import ContentVisibility.Trace.Basic

/-! # Hooks

A host may register one transform at each of four points: the attributes of a
block, the rules that show it, the rules that hide it again, and the finished
content.  A registered transform is recorded with the value it is given; where
none is registered the value passes through and nothing is recorded. -/
set_option autoImplicit false

namespace ContentVisibility

structure Hooks where
  attributes : Option (Attributes → Attributes) := none
  hideRules : Option (List Predicate → List Predicate) := none
  showRules : Option (List Predicate → List Predicate) := none
  content : Option (Text → Text) := none

namespace Hooks

def none : Hooks := {}

def onAttributes (h : Hooks) (f : Attributes → Attributes) : Hooks := { h with attributes := some f }

def onHideRules (h : Hooks) (f : List Predicate → List Predicate) : Hooks :=
  { h with hideRules := some f }

def onShowRules (h : Hooks) (f : List Predicate → List Predicate) : Hooks :=
  { h with showRules := some f }

def onContent (h : Hooks) (f : Text → Text) : Hooks := { h with content := some f }

/-! ## Application -/

def applyAt {α : Type} (record : α → Callback) (hook : Option (α → α)) (value : α) : Traced α :=
  match hook with
  | .none => pure value
  | .some f => do
      Traced.call (record value)
      pure (f value)

def applyAttributes (h : Hooks) (a : Attributes) : Traced Attributes :=
  applyAt .attributes h.attributes a

def applyHideRules (h : Hooks) (rules : List Predicate) : Traced (List Predicate) :=
  applyAt .hideRules h.hideRules rules

def applyShowRules (h : Hooks) (rules : List Predicate) : Traced (List Predicate) :=
  applyAt .showRules h.showRules rules

def applyContent (h : Hooks) (content : Text) : Traced Text :=
  applyAt .content h.content content

@[simp] theorem value_applyAt {α : Type} (record : α → Callback) (hook : Option (α → α))
    (value : α) : (applyAt record hook value).value = (hook.getD id) value := by
  cases hook <;> rfl

theorem events_applyAt {α : Type} (record : α → Callback) (hook : Option (α → α)) (value : α) :
    (applyAt record hook value).events =
      if hook.isSome then [.called (record value)] else [] := by
  cases hook <;> rfl

end Hooks

end ContentVisibility
