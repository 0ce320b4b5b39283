import ContentVisibility.Text.Basic

/-! # Segments of a rule

A segment is one side of a rule: a role, a capability or a value to compare
with.  A leading `!` turns its sense round.  The name that is looked up is the
segment without any `!`, wherever in the segment they stand. -/
set_option autoImplicit false

namespace ContentVisibility.Segment

def negationMarker : Char := '!'

def isNegative (segment : Text) : Bool := segment.head? == some negationMarker

def realName (segment : Text) : Text := segment.filter (· != negationMarker)

/-- The outcome of the look-up for which the segment holds. -/
def expected (segment : Text) : Bool := !isNegative segment

@[simp] theorem isNegative_nil : isNegative [] = false := rfl

theorem isNegative_cons (c : Char) (s : Text) : isNegative (c :: s) = (c == negationMarker) := by
  simp [isNegative]

@[simp] theorem expected_nil : expected [] = true := rfl

@[simp] theorem realName_nil : realName [] = [] := rfl

theorem realName_of_not_mem {s : Text} (h : negationMarker ∉ s) : realName s = s := by
  refine List.filter_eq_self.mpr fun c hc => ?_
  exact bne_iff_ne.mpr fun e => h (e ▸ hc)

theorem expected_of_not_mem {s : Text} (h : negationMarker ∉ s) : expected s = true := by
  cases s with
  | nil => rfl
  | cons c s =>
      have hc : c ≠ negationMarker := fun e => h (by simp [e])
      simp [expected, isNegative_cons, hc]

theorem expected_of_not_negative {s : Text} (h : isNegative s = false) : expected s = true := by
  rw [expected, h]
  rfl

theorem expected_of_negative {s : Text} (h : isNegative s = true) : expected s = false := by
  rw [expected, h]
  rfl

theorem realName_negated (s : Text) : realName (negationMarker :: s) = realName s := by
  simp [realName]

theorem expected_negated (s : Text) : expected (negationMarker :: s) = false := by
  simp [expected, isNegative_cons]

end ContentVisibility.Segment
