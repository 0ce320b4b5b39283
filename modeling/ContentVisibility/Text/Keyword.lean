import ContentVisibility.Text.Basic

/-! # Keywords

A finite vocabulary in which every word has one spelling and no two words share
theirs.  A text reads as a word exactly when it is the word's spelling. -/
set_option autoImplicit false

namespace ContentVisibility

class Keyword (α : Type) where
  text : α → Text
  all : List α
  mem_all : ∀ a, a ∈ all
  text_injective : ∀ a b, text a = text b → a = b

namespace Keyword

variable {α : Type} [Keyword α]

def read? (s : Text) : Option α := all.find? fun a => s == text a

theorem eq_text_of_read? {s : Text} {a : α} (h : read? s = some a) : s = text a := by
  have := List.find?_some (p := fun a : α => s == text a) h
  exact eq_of_beq this

theorem read?_eq_some_iff {s : Text} {a : α} : read? s = some a ↔ s = text a := by
  refine ⟨eq_text_of_read?, fun h => ?_⟩
  cases hf : read? (α := α) s with
  | none =>
      have := List.find?_eq_none.mp hf a (mem_all a)
      simp [h] at this
  | some b => rw [text_injective b a (eq_text_of_read? hf ▸ h)]

@[simp] theorem read?_text (a : α) : read? (text a) = some a := read?_eq_some_iff.mpr rfl

theorem read?_eq_none_iff {s : Text} : read? (α := α) s = none ↔ ∀ a : α, s ≠ text a := by
  constructor
  · intro h a hs
    rw [read?_eq_some_iff.mpr hs] at h
    simp at h
  · intro h
    cases hf : read? (α := α) s with
    | none => rfl
    | some a => exact absurd (read?_eq_some_iff.mp hf) (h a)

end Keyword

end ContentVisibility
