import ContentVisibility.Text.Cut

/-! # Occurrences of a pattern

`FirstCut` says, without a search, that a text is cut around the earliest
occurrence of a pattern; `cutAt?` finds exactly these cuts.  The cut does not
depend on what follows the occurrence.  A pattern that ends in a character
which the text behind it lacks lies wholly in front of that text. -/
set_option autoImplicit false

namespace ContentVisibility.Text

/-- The pattern stands between `before` and `after`, and nowhere earlier. -/
def FirstCut (pattern s before after : Text) : Prop :=
  s = before ++ (pattern ++ after) ∧
    ∀ before' after', s = before' ++ (pattern ++ after') → before.length ≤ before'.length

theorem isInfix_iff {pattern s : Text} :
    pattern <:+: s ↔ ∃ before after, s = before ++ (pattern ++ after) := by
  constructor
  · intro h
    obtain ⟨before, after, h⟩ := h
    exact ⟨before, after, by rw [← h, List.append_assoc]⟩
  · intro h
    obtain ⟨before, after, rfl⟩ := h
    exact ⟨before, after, List.append_assoc _ _ _⟩

/-- Of two fronts of one text the shorter starts the longer. -/
theorem isPrefix_of_append_eq {x y z w : Text} (h : x ++ z = y ++ w) (hlen : x.length ≤ y.length) :
    x <+: y :=
  List.prefix_of_prefix_length_le ⟨z, rfl⟩ ⟨w, h.symm⟩ hlen

theorem length_le_of_cutAt? {pattern : Text} :
    ∀ {s before after : Text}, cutAt? pattern s = some (before, after) →
      ∀ before' after', s = before' ++ (pattern ++ after') → before.length ≤ before'.length := by
  intro s
  induction s with
  | nil =>
      intro before after h before' after' _
      have hs := congrArg List.length (eq_of_cutAt? h)
      simp only [List.length_nil, List.length_append] at hs
      omega
  | cons c rest ih =>
      intro before after h before' after' hs
      simp only [cutAt?] at h
      split at h
      · obtain ⟨rfl, rfl⟩ := Prod.mk.inj (Option.some.inj h)
        exact Nat.zero_le _
      · rename_i hnone
        obtain ⟨⟨b, a⟩, hcut, heq⟩ := Option.map_eq_some_iff.mp h
        obtain ⟨rfl, rfl⟩ := Prod.mk.inj heq
        cases before' with
        | nil =>
            have hstrip : strip? pattern (c :: rest) = some after' := strip?_eq_some_iff.mpr hs
            rw [hstrip] at hnone
            simp at hnone
        | cons d before' =>
            have htail : rest = before' ++ (pattern ++ after') := (List.cons.inj hs).2
            exact Nat.succ_le_succ (ih hcut before' after' htail)

/-- Two occurrences at the same place are the same cut. -/
theorem FirstCut.unique {pattern s b₁ a₁ b₂ a₂ : Text} (h₁ : FirstCut pattern s b₁ a₁)
    (h₂ : FirstCut pattern s b₂ a₂) : b₁ = b₂ ∧ a₁ = a₂ := by
  have hlen : b₁.length = b₂.length :=
    Nat.le_antisymm (h₁.2 _ _ h₂.1) (h₂.2 _ _ h₁.1)
  obtain ⟨hb, hrest⟩ := List.append_inj (h₁.1.symm.trans h₂.1) hlen
  exact ⟨hb, List.append_cancel_left hrest⟩

theorem cutAt?_eq_some_iff {pattern s before after : Text} :
    cutAt? pattern s = some (before, after) ↔ FirstCut pattern s before after := by
  constructor
  · intro h
    exact ⟨eq_of_cutAt? h, length_le_of_cutAt? h⟩
  · intro h
    cases hc : cutAt? pattern s with
    | none => exact absurd h.1 (cutAt?_eq_none_iff.mp hc before after)
    | some parts =>
        obtain ⟨b, a⟩ := parts
        have hfirst : FirstCut pattern s b a := ⟨eq_of_cutAt? hc, length_le_of_cutAt? hc⟩
        obtain ⟨rfl, rfl⟩ := hfirst.unique h
        rfl

theorem cutAt?_eq_none_iff_not_isInfix {pattern s : Text} :
    cutAt? pattern s = none ↔ ¬ pattern <:+: s := by
  rw [cutAt?_eq_none_iff, isInfix_iff]
  simp only [not_exists, ne_eq]

theorem FirstCut.replace_after {pattern s before after : Text} (h : FirstCut pattern s before after)
    (after' : Text) : FirstCut pattern (before ++ (pattern ++ after')) before after' := by
  refine ⟨rfl, fun b a hba => ?_⟩
  by_cases hle : before.length ≤ b.length
  · exact hle
  · -- an earlier occurrence ends before this one does, so it is there whatever follows
    have heq : (b ++ pattern) ++ a = (before ++ pattern) ++ after' := by
      simp only [List.append_assoc, hba]
    obtain ⟨z, hz⟩ := isPrefix_of_append_eq heq (by simp only [List.length_append]; omega)
    refine h.2 b (z ++ after) ?_
    calc s = before ++ pattern ++ after := by rw [h.1, List.append_assoc]
      _ = b ++ pattern ++ z ++ after := by rw [hz]
      _ = b ++ (pattern ++ (z ++ after)) := by simp only [List.append_assoc]

/-- The text before the first occurrence holds none. -/
theorem FirstCut.not_isInfix {pattern s before after : Text} (h : FirstCut pattern s before after)
    (hne : pattern ≠ []) : ¬ pattern <:+: before := by
  intro hin
  obtain ⟨u, w, rfl⟩ := isInfix_iff.mp hin
  have hlen := h.2 u (w ++ (pattern ++ after)) (by rw [h.1]; simp only [List.append_assoc])
  have hpos := List.length_pos_iff.mpr hne
  simp only [List.length_append] at hlen
  omega

/-! ## Patterns that end in a mark -/

/-- A front that ends in a character which the second text lacks ends in the
first. -/
theorem exists_eq_of_append_eq {u m x q : Text} {c : Char} (h : u ++ m = (x ++ [c]) ++ q)
    (hc : c ∉ m) : ∃ q', u = (x ++ [c]) ++ q' ∧ q = q' ++ m := by
  rcases List.append_eq_append_iff.mp h with ⟨w, hw, hm⟩ | ⟨w, hw, hq⟩
  · cases List.eq_nil_or_concat w with
    | inl hnil =>
        subst hnil
        exact ⟨[], by rw [hw, List.append_nil, List.append_nil], hm.symm⟩
    | inr hconcat =>
        obtain ⟨w', d, rfl⟩ := hconcat
        rw [List.concat_eq_append, ← List.append_assoc] at hw
        obtain rfl : c = d := by simpa using List.append_inj_right' hw rfl
        exact absurd (by rw [hm]; simp) hc
  · exact ⟨w, hw, hq⟩

theorem isInfix_of_isInfix_append {p u m : Text} {c : Char} (h : p ++ [c] <:+: u ++ m)
    (hc : c ∉ m) : p ++ [c] <:+: u := by
  obtain ⟨x, q, hx⟩ := h
  rw [← List.append_assoc] at hx
  obtain ⟨q', hu, -⟩ := exists_eq_of_append_eq hx.symm hc
  exact ⟨x, q', by rw [hu, List.append_assoc x p]⟩

/-- A pattern that ends in its only mark does not run past a mark. -/
theorem isInfix_append_of_mark {p x y : Text} {c : Char} (hc : c ∉ p)
    (h : p ++ [c] <:+: (x ++ [c]) ++ y) : p ++ [c] <:+: x ++ [c] ∨ p ++ [c] <:+: y := by
  rcases List.infix_append_iff_ne_nil.mp h with h | h | ⟨p₁, p₂, hne₁, hne₂, hp, hsuf, -⟩
  · exact Or.inl h
  · exact Or.inr h
  · obtain ⟨q₁, d₁, rfl⟩ := (List.eq_nil_or_concat p₁).resolve_left hne₁
    obtain ⟨q₂, d₂, rfl⟩ := (List.eq_nil_or_concat p₂).resolve_left hne₂
    obtain ⟨u, hu⟩ := hsuf
    simp only [List.concat_eq_append, ← List.append_assoc] at hu hp
    have hd : d₁ = c := by simpa using List.append_inj_right' hu rfl
    have hq : p = q₁ ++ [d₁] ++ q₂ := List.append_inj_left' hp rfl
    exact absurd (by rw [hq, hd]; simp) hc

/-- A pattern that starts with its only mark does not start before a mark and run
past it. -/
theorem isInfix_append_cons {p x y : Text} {c : Char} (hc : c ∉ p)
    (h : c :: p <:+: x ++ c :: y) : c :: p <:+: x ∨ c :: p <:+: c :: y := by
  rcases List.infix_append_iff_ne_nil.mp h with h | h | ⟨p₁, p₂, hne₁, hne₂, hp, -, hpre⟩
  · exact Or.inl h
  · exact Or.inr h
  · obtain ⟨d₁, q₁, rfl⟩ := List.exists_cons_of_ne_nil hne₁
    obtain ⟨d₂, q₂, rfl⟩ := List.exists_cons_of_ne_nil hne₂
    obtain ⟨rfl, -⟩ := List.cons_prefix_cons.mp hpre
    have hq : p = q₁ ++ d₂ :: q₂ := (List.cons.inj hp).2
    exact absurd (by rw [hq]; simp) hc

/-- Behind a text that lacks it, such a pattern is found where it was put. -/
theorem firstCut_of_not_isInfix {p before : Text} {c : Char} (hc : c ∉ p)
    (h : ¬ c :: p <:+: before) (after : Text) :
    FirstCut (c :: p) (before ++ (c :: p ++ after)) before after := by
  refine ⟨rfl, fun u w huw => ?_⟩
  by_cases hle : before.length ≤ u.length
  · exact hle
  · obtain ⟨z, rfl⟩ := isPrefix_of_append_eq huw.symm (by omega)
    have hz : z ++ (c :: p ++ after) = c :: p ++ w := by
      rw [List.append_assoc] at huw
      exact List.append_cancel_left huw
    rcases List.append_eq_append_iff.mp hz with ⟨q, hq, hrest⟩ | ⟨q, hq, -⟩
    · -- the pattern starts in `z` and runs past the mark
      cases z with
      | nil => simp at hle
      | cons d z =>
          have hp : p = z ++ q := (List.cons.inj hq).2
          cases q with
          | nil =>
              rw [List.append_nil] at hq
              exact absurd (hq ▸ (List.suffix_append u _).isInfix) h
          | cons e q =>
              have he : c = e := (List.cons.inj hrest).1
              exact absurd (by rw [hp, ← he]; simp) hc
    · refine absurd ?_ h
      rw [hq]
      exact ⟨u, q, by simp only [List.append_assoc]⟩

end ContentVisibility.Text
