import ContentVisibility.Rule.Judgement

/-! # Conditions as written

Functions put specifications together and operators put clauses together.  A plain
condition is wrapped to stand as an operand, and a clause, being a specification too,
is a plain condition as it is, so an expression may pass from one notation to the other
at any depth. -/
set_option autoImplicit false

namespace ContentVisibility

/-- Whether a connective is written as a function or as an operator. -/
inductive Connective where
  | function
  | operator
  deriving DecidableEq

/-- What connectives of the style put together: specifications, or clauses, of any type. -/
inductive Condition : Connective → Type 1 where
  | plain {Term : Type} [Specification Term] (term : Term) : Condition .function
  | clause {Term : Type} [Specification Term] (operand : Clause Term) : Condition .operator

namespace Condition

def holds : {style : Connective} → Condition style → Viewer → Traced Bool
  | _, @plain _ _ term, v => Specification.holds term v
  | _, @clause _ _ operand, v => Specification.holds operand v

def and : {style : Connective} → Condition style → Condition style → Condition style
  | _, @plain _ _ a, @plain _ _ b => plain (Specification.and a b)
  | _, @clause _ _ a, @clause _ _ b => clause (a &&& b)

def not : {style : Connective} → Condition style → Condition style
  | _, @plain _ _ term => plain (Specification.not term)
  | _, @clause _ _ operand => clause operand.not

def wrap : Condition .function → Condition .operator
  | @plain _ _ term => clause (Clause.mk term)

def ofOperand : Condition .operator → Condition .function
  | @clause _ _ operand => plain operand

end Condition

/-- A condition for connectives of one style, as written; its user keys are still unread. -/
inductive Expression : Connective → Type where
  | always : Expression .function
  | loggedIn : Expression .function
  | role (segment : Text) : Expression .function
  | capability (segment : Text) : Expression .function
  | user (key segment : Text) : Expression .function
  | pair (role capability : Text) : Expression .function
  | token (text : Text) : Expression .function
  | both {style : Connective} (a b : Expression style) : Expression style
  | negation {style : Connective} (a : Expression style) : Expression style
  | clause (a : Expression .function) : Expression .operator
  | ofClause (a : Expression .operator) : Expression .function

/-- The condition written; from the left, the first key that is not a user key is
reported instead. -/
def Expression.condition :
    {style : Connective} → Expression style → Except UnknownUserKey (Condition style)
  | _, .always => .ok (.plain Criterion.always)
  | _, .loggedIn => .ok (.plain Criterion.loggedIn)
  | _, .role segment => .ok (.plain (Criterion.role segment))
  | _, .capability segment => .ok (.plain (Criterion.capability segment))
  | _, .user key segment =>
      match UserKey.read key with
      | .ok key => .ok (.plain (Criterion.identity key segment))
      | .error e => .error e
  | _, .pair r c => .ok (.plain (Predicate.mk r c))
  | _, .token t => .ok (.plain (Predicate.parse t))
  | _, .both a b => do
      let left ← a.condition
      let right ← b.condition
      return left.and right
  | _, .negation a => Condition.not <$> a.condition
  | _, .clause a => Condition.wrap <$> a.condition
  | _, .ofClause a => Condition.ofOperand <$> a.condition

abbrev Formula := Expression .function

namespace Formula

/-- The conjunction of two formulas in the given style, the operands wrapped. -/
def both : Connective → Formula → Formula → Formula
  | .function, a, b => Expression.both a b
  | .operator, a, b => .ofClause (.both (.clause a) (.clause b))

def negation : Connective → Formula → Formula
  | .function, a => Expression.negation a
  | .operator, a => .ofClause (.negation (.clause a))

end Formula

end ContentVisibility
