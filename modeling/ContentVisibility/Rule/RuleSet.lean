import ContentVisibility.Rule.Listing
import ContentVisibility.Text.Keyword

/-! # Rule sets

A rule text is either one of three absolute words, written exactly, or a rule
list.  There is no word for "nobody": `none` is a list with the role `none`. -/
set_option autoImplicit false

namespace ContentVisibility

/-- Who an absolute rule set admits. -/
inductive Absolute where
  | everyone
  | loggedIn
  | loggedOut
  deriving DecidableEq

instance : Keyword Absolute where
  text
    | .everyone => "all".toList
    | .loggedIn => "logged".toList
    | .loggedOut => "!logged".toList
  all := [.everyone, .loggedIn, .loggedOut]
  mem_all a := by cases a <;> simp
  text_injective a b := by cases a <;> cases b <;> decide

inductive RuleSet where
  | absolute (a : Absolute)
  | rules (predicates : List Predicate)
  deriving DecidableEq

namespace RuleSet

/-- The absolute set that the text names, or else the given predicates. -/
def ofParts (spec : Text) (predicates : List Predicate) : RuleSet :=
  match Keyword.read? spec with
  | some a => .absolute a
  | none => .rules predicates

def parse (spec : Text) : RuleSet := ofParts spec (Rule.ofSpec spec)

theorem ofParts_text (a : Absolute) (ps : List Predicate) :
    ofParts (Keyword.text a) ps = .absolute a := by
  simp [ofParts]

theorem ofParts_of_ne_text {spec : Text} (h : ∀ a : Absolute, spec ≠ Keyword.text a)
    (ps : List Predicate) : ofParts spec ps = .rules ps := by
  simp [ofParts, Keyword.read?_eq_none_iff.mpr h]

end RuleSet

end ContentVisibility
