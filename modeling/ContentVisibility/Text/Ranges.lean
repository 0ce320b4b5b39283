import ContentVisibility.Text.Basic

/-! # Character classes as ranges

A class of characters is an ascending list of closed ranges of code points.
The look-up stops at the first range that starts beyond the code point, so it
agrees with membership in some range whenever the list ascends. -/
set_option autoImplicit false

namespace ContentVisibility.Text

abbrev Ranges := List (Nat × Nat)

def Ranges.contains (n : Nat) : Ranges → Bool
  | [] => false
  | (lo, hi) :: rest => if n < lo then false else if n ≤ hi then true else Ranges.contains n rest

/-- Every range ends before the next one starts. -/
def Ranges.Ascending (rs : Ranges) : Prop := rs.Pairwise fun a b => a.2 < b.1

instance (rs : Ranges) : Decidable rs.Ascending :=
  inferInstanceAs (Decidable (rs.Pairwise fun a b => a.2 < b.1))

theorem Ranges.exists_of_contains {n : Nat} :
    ∀ {rs : Ranges}, rs.contains n = true → ∃ r ∈ rs, r.1 ≤ n ∧ n ≤ r.2 := by
  intro rs
  induction rs with
  | nil => intro h; simp [Ranges.contains] at h
  | cons r rest ih =>
      intro h
      obtain ⟨lo, hi⟩ := r
      simp only [Ranges.contains] at h
      by_cases hlo : n < lo
      · simp [hlo] at h
      · by_cases hhi : n ≤ hi
        · exact ⟨(lo, hi), List.mem_cons_self, Nat.le_of_not_lt hlo, hhi⟩
        · simp only [hlo, hhi, if_false] at h
          obtain ⟨r, hr, bounds⟩ := ih h
          exact ⟨r, List.mem_cons_of_mem _ hr, bounds⟩

end ContentVisibility.Text
