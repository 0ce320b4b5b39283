import ContentVisibility.Text.Basic

/-! # The order of texts

Texts are ordered by their first different code points, a text before its
extensions.  This is also the order of their bytes in UTF-8.  The order is
strict and total. -/
set_option autoImplicit false

namespace ContentVisibility.Text

def Before : Text → Text → Prop
  | _, [] => False
  | [], _ :: _ => True
  | a :: s, b :: t => a.toNat < b.toNat ∨ a = b ∧ Before s t

instance decidableBefore : (s t : Text) → Decidable (Before s t)
  | [], [] => isFalse id
  | _ :: _, [] => isFalse id
  | [], _ :: _ => isTrue trivial
  | a :: s, b :: t =>
      have := decidableBefore s t
      inferInstanceAs (Decidable (a.toNat < b.toNat ∨ a = b ∧ Before s t))

theorem before_irrefl : ∀ s : Text, ¬ Before s s := by
  intro s
  induction s with
  | nil => exact id
  | cons a s ih =>
      rintro (h | ⟨_, h⟩)
      · exact Nat.lt_irrefl _ h
      · exact ih h

theorem before_trans : ∀ {s t u : Text}, Before s t → Before t u → Before s u := by
  intro s
  induction s with
  | nil =>
      intro t u _ htu
      cases u with
      | nil => cases t <;> exact htu.elim
      | cons c u => trivial
  | cons a s ih =>
      intro t u hst htu
      cases t with
      | nil => exact hst.elim
      | cons b t =>
          cases u with
          | nil => exact htu.elim
          | cons c u =>
              rcases hst with hab | ⟨rfl, hst⟩
              · rcases htu with hbc | ⟨rfl, _⟩
                · exact Or.inl (Nat.lt_trans hab hbc)
                · exact Or.inl hab
              · rcases htu with hbc | ⟨rfl, htu⟩
                · exact Or.inl hbc
                · exact Or.inr ⟨rfl, ih hst htu⟩

theorem before_total : ∀ {s t : Text}, ¬ Before s t → s ≠ t → Before t s := by
  intro s
  induction s with
  | nil =>
      intro t h hne
      cases t with
      | nil => exact absurd rfl hne
      | cons b t => exact absurd trivial h
  | cons a s ih =>
      intro t h hne
      cases t with
      | nil => trivial
      | cons b t =>
          rcases Nat.lt_trichotomy a.toNat b.toNat with hab | hab | hab
          · exact absurd (Or.inl hab) h
          · have hchar : a = b := Char.ext (UInt32.toNat_inj.mp hab)
            subst hchar
            refine Or.inr ⟨rfl, ih (fun hst => h (Or.inr ⟨rfl, hst⟩)) fun hst => hne ?_⟩
            rw [hst]
          · exact Or.inl hab

end ContentVisibility.Text
