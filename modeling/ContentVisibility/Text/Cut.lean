import ContentVisibility.Text.Basic

/-! # Cutting texts

`pieces` cuts a text at every occurrence of a character and `joined` puts the
pieces together again; `pieces` turns a concatenation around the separator into
a concatenation of the pieces.  `cutAt?` cuts a text around the first
occurrence of a pattern. -/
set_option autoImplicit false

namespace ContentVisibility.Text

/-! ## Separators -/

/-- The parts between the separators, blank ones kept; there is one more part
than there are separators. -/
def pieces (sep : Char) : Text → List Text
  | [] => [[]]
  | c :: rest =>
      if c = sep then [] :: pieces sep rest
      else
        match pieces sep rest with
        | [] => [[c]]
        | first :: others => (c :: first) :: others

def joined (sep : Char) : List Text → Text
  | [] => []
  | [s] => s
  | s :: t :: rest => s ++ sep :: joined sep (t :: rest)

theorem pieces_ne_nil (sep : Char) (s : Text) : pieces sep s ≠ [] := by
  cases s with
  | nil => simp [pieces]
  | cons c rest =>
      simp only [pieces]
      split
      · simp
      · split <;> simp

theorem joined_cons_head (sep c : Char) (first : Text) (others : List Text) :
    joined sep ((c :: first) :: others) = c :: joined sep (first :: others) := by
  cases others <;> rfl

theorem joined_pieces (sep : Char) (s : Text) : joined sep (pieces sep s) = s := by
  induction s with
  | nil => rfl
  | cons c rest ih =>
      simp only [pieces]
      by_cases h : c = sep
      · subst h
        rw [if_pos rfl]
        cases hp : pieces c rest with
        | nil => exact absurd hp (pieces_ne_nil c rest)
        | cons first others => rw [hp] at ih; simp [joined, ih]
      · rw [if_neg h]
        cases hp : pieces sep rest with
        | nil => exact absurd hp (pieces_ne_nil sep rest)
        | cons first others => rw [hp] at ih; simp [joined_cons_head, ih]

theorem pieces_append (sep : Char) (s t : Text) :
    pieces sep (s ++ sep :: t) = pieces sep s ++ pieces sep t := by
  induction s with
  | nil => simp [pieces]
  | cons c rest ih =>
      simp only [List.cons_append, pieces]
      by_cases h : c = sep
      · simp [h, ih]
      · rw [if_neg h, if_neg h, ih]
        cases hp : pieces sep rest with
        | nil => exact absurd hp (pieces_ne_nil sep rest)
        | cons first others => simp

theorem pieces_of_not_mem {sep : Char} {s : Text} (h : sep ∉ s) : pieces sep s = [s] := by
  induction s with
  | nil => rfl
  | cons c rest ih =>
      have hc : c ≠ sep := fun e => h (by simp [e])
      have hr : sep ∉ rest := fun m => h (List.mem_cons_of_mem _ m)
      simp [pieces, hc, ih hr]

/-! ## The first occurrence of a pattern -/

/-- What follows the pattern when the text starts with it. -/
def strip? : (pattern s : Text) → Option Text
  | [], s => some s
  | _ :: _, [] => none
  | p :: pattern, c :: rest => if p = c then strip? pattern rest else none

/-- What stands before and after the first occurrence of the pattern. -/
def cutAt? (pattern : Text) : Text → Option (Text × Text)
  | [] => (strip? pattern []).map fun after => ([], after)
  | c :: rest =>
      match strip? pattern (c :: rest) with
      | some after => some ([], after)
      | none => (cutAt? pattern rest).map fun (before, after) => (c :: before, after)

theorem strip?_eq_some_iff {pattern : Text} :
    ∀ {s after : Text}, strip? pattern s = some after ↔ s = pattern ++ after := by
  induction pattern with
  | nil => intro s after; simp [strip?]
  | cons p pattern ih =>
      intro s after
      cases s with
      | nil => simp [strip?]
      | cons c rest =>
          by_cases h : p = c
          · simp [strip?, h, ih]
          · simp [strip?, h, Ne.symm h]

@[simp] theorem strip?_append (pattern s : Text) : strip? pattern (pattern ++ s) = some s :=
  strip?_eq_some_iff.mpr rfl

/-- The parts that the cut yields are the text around the pattern. -/
theorem eq_of_cutAt? {pattern : Text} :
    ∀ {s before after : Text}, cutAt? pattern s = some (before, after) →
      s = before ++ (pattern ++ after) := by
  intro s
  induction s with
  | nil =>
      intro before after h
      obtain ⟨r, hr, heq⟩ := Option.map_eq_some_iff.mp h
      obtain ⟨rfl, rfl⟩ := Prod.mk.inj heq
      simpa using strip?_eq_some_iff.mp hr
  | cons c rest ih =>
      intro before after h
      simp only [cutAt?] at h
      split at h
      · rename_i r hr
        obtain ⟨rfl, rfl⟩ := Prod.mk.inj (Option.some.inj h)
        simpa using strip?_eq_some_iff.mp hr
      · obtain ⟨⟨b, a⟩, hcut, heq⟩ := Option.map_eq_some_iff.mp h
        simp only [Prod.mk.injEq] at heq
        rw [← heq.1, ← heq.2, ih hcut]
        rfl

theorem cutAt?_isSome_append (pattern : Text) :
    ∀ before after : Text, (cutAt? pattern (before ++ (pattern ++ after))).isSome = true := by
  intro before
  induction before with
  | nil =>
      intro after
      cases hs : pattern ++ after with
      | nil =>
          have hp : pattern = [] := (List.append_eq_nil_iff.mp hs).1
          simp [cutAt?, hp, strip?]
      | cons c rest =>
          have : strip? pattern (c :: rest) = some after := by rw [← hs]; simp
          simp [cutAt?, this]
  | cons b before ih =>
      intro after
      simp only [List.cons_append, cutAt?]
      split
      · rfl
      · simpa using ih after

/-- There is nothing to cut exactly when the pattern stands nowhere in the text. -/
theorem cutAt?_eq_none_iff {pattern s : Text} :
    cutAt? pattern s = none ↔ ∀ before after, s ≠ before ++ (pattern ++ after) := by
  constructor
  · intro h before after hs
    have := cutAt?_isSome_append pattern before after
    rw [← hs, h] at this
    simp at this
  · intro h
    cases hc : cutAt? pattern s with
    | none => rfl
    | some parts =>
        obtain ⟨before, after⟩ := parts
        exact absurd (eq_of_cutAt? hc) (h before after)

end ContentVisibility.Text
