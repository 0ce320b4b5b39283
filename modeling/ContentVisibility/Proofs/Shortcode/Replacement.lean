import ContentVisibility.Proofs.Shortcode.Tiling

/-! # Replacing the body of a block

Where no tag holds a bracket, an opening tag is read up to the next closing
bracket and no further, so what is read at a place does not depend on the text
behind that bracket (`Opening.fits_append_iff`).  A closing tag starts and ends
with a bracket and lies on one side of any other.

A block of a tiling therefore keeps its place when another body is put into it,
as long as the new body holds no closing tag that the old one lacks
(`Tiling.ofDocument_replace`). -/
set_option autoImplicit false

namespace ContentVisibility

def Unbracketed (tags : List Text) : Prop := ∀ t ∈ tags, '[' ∉ t ∧ ']' ∉ t

namespace Opening

theorem fits_append_iff {t y z : Text} (ht : ']' ∉ t) :
    Fits t (y ++ ']' :: z) ↔ Fits t (y ++ [']']) := by
  constructor
  · intro h
    obtain ⟨a, after, hpart, hs⟩ := h
    have heq : (y ++ [']']) ++ z = ('[' :: (t ++ a) ++ [']']) ++ after := by
      simpa [source] using hs
    by_cases hle : ('[' :: (t ++ a) ++ [']']).length ≤ (y ++ [']']).length
    · obtain ⟨rest, hrest⟩ := Text.isPrefix_of_append_eq heq.symm hle
      exact ⟨a, rest, hpart, by rw [← hrest]; simp [source]⟩
    · -- a shorter text would put a bracket into the tag or its attribute part
      have heq' : (y ++ [']']) ++ z = '[' :: (t ++ a) ++ (']' :: after) := by
        rw [heq, List.append_assoc, List.singleton_append]
      have hpre : y ++ [']'] <+: '[' :: (t ++ a) := by
        apply Text.isPrefix_of_append_eq heq'
        simp only [List.length_append, List.length_cons, List.length_nil] at hle ⊢
        omega
      have hmem : ']' ∈ '[' :: (t ++ a) := hpre.subset (by simp)
      rcases List.mem_cons.mp hmem with hmem | hmem
      · exact absurd hmem (by decide)
      · rcases List.mem_append.mp hmem with hmem | hmem
        · exact absurd hmem ht
        · exact absurd hmem hpart.not_mem
  · intro h
    obtain ⟨a, after, hpart, hs⟩ := h
    refine ⟨a, after ++ z, hpart, ?_⟩
    rw [← List.append_assoc, ← hs, List.append_assoc, List.singleton_append]

/-- An opening tag stands whatever follows the next bracket. -/
theorem Stands.replace_after {tags : List Text} (htags : Unbracketed tags) {o : Opening}
    {y z z' rest : Text} (h : o.Stands tags (o.source ++ y ++ z) rest) :
    o.Stands tags (o.source ++ y ++ z') (y ++ z') := by
  obtain ⟨-, hpart, earlier, later, rfl, hfirst⟩ := h
  refine ⟨List.append_assoc _ _ _, hpart, earlier, later, rfl, fun t ht hfits => ?_⟩
  have hbracket := (htags t (List.mem_append_left _ ht)).2
  have hsource : ∀ w, o.source ++ y ++ w = '[' :: (o.tag ++ o.attributes) ++ ']' :: (y ++ w) := by
    intro w
    simp [source]
  rw [hsource, fits_append_iff hbracket] at hfits
  refine hfirst t ht ?_
  rw [hsource, fits_append_iff hbracket]
  exact hfits

end Opening

namespace Block

theorem Plain.replace_after {tags : List Text} (htags : Unbracketed tags) {before y z z' : Text}
    (h : Plain tags before (y ++ ']' :: z)) : Plain tags before (y ++ ']' :: z') := by
  intro u w hw hne t ht hfits
  have hbracket := (htags t ht).2
  refine h u w hw hne t ht ?_
  rw [← List.append_assoc, Opening.fits_append_iff hbracket] at hfits ⊢
  exact hfits

theorem Plain.replace_after_source {tags : List Text} (htags : Unbracketed tags) {before z : Text}
    {b : Block} (h : Plain tags before (b.source ++ z)) (z' : Text) :
    Plain tags before (b.source ++ z') := by
  obtain ⟨y, hy⟩ := b.exists_source_eq
  rw [hy, List.append_assoc, List.singleton_append] at h ⊢
  exact h.replace_after htags

/-- A closed block stands whatever follows it. -/
theorem Stands.replace_after {tags : List Text} (htags : Unbracketed tags) {b : Block} {z : Text}
    (h : b.Stands tags (b.source ++ z) z) (closed : b.body?.isSome = true) (z' : Text) :
    b.Stands tags (b.source ++ z') z' := by
  obtain ⟨rest, hopening, hends⟩ := h
  obtain ⟨tag, a, body?⟩ := b
  cases body? with
  | none => simp at closed
  | some body =>
      have hsource : source ⟨tag, a, some body⟩ =
          Opening.source ⟨tag, a⟩ ++ (body ++ Opening.closeOf tag) := rfl
      rw [hsource] at hopening ⊢
      refine ⟨_, hopening.replace_after htags, ?_⟩
      have hcut := Text.FirstCut.replace_after hends z'
      rw [← List.append_assoc] at hcut
      exact hcut

end Block

namespace Opening

variable {tag : Text}

theorem closeOf_isInfix_append_of_close (htag : ']' ∉ tag) {x y : Text}
    (h : closeOf tag <:+: (x ++ [']']) ++ y) :
    closeOf tag <:+: x ++ [']'] ∨ closeOf tag <:+: y := by
  rw [closeOf_eq] at h ⊢
  exact Text.isInfix_append_of_mark (by simp [htag]) h

theorem closeOf_isInfix_append_of_open (htag : '[' ∉ tag) {x y : Text}
    (h : closeOf tag <:+: x ++ '[' :: y) : closeOf tag <:+: x ∨ closeOf tag <:+: '[' :: y :=
  Text.isInfix_append_cons (by simp [htag]) h

theorem firstCut_closeOf (htag : '[' ∉ tag) {body : Text} (h : ¬ closeOf tag <:+: body)
    (after : Text) : Text.FirstCut (closeOf tag) (body ++ (closeOf tag ++ after)) body after :=
  Text.firstCut_of_not_isInfix (by simp [htag]) h after

end Opening

/-! ## Tilings -/

namespace Tiling

def textOf (tiles : List (Text × Block)) : Text :=
  tiles.flatMap fun (before, b) => before ++ b.source

theorem source_append (front back : List (Text × Block)) (tail : Text) :
    source ⟨front ++ back, tail⟩ = textOf front ++ source ⟨back, tail⟩ := by
  simp [source, textOf]

theorem source_middle (front back : List (Text × Block)) (before : Text) (b : Block) (tail : Text) :
    source ⟨front ++ (before, b) :: back, tail⟩ =
      textOf front ++ before ++ (b.source ++ source ⟨back, tail⟩) := by
  rw [source_append, source_cons, List.append_assoc]

section Replacement
variable {tags : List Text} (htags : Unbracketed tags) {tag a b₁ b₂ tail : Text}
  {back : List (Text × Block)}
  (hclose : ∀ t ∈ tags, Opening.closeOf t <:+: b₂ → Opening.closeOf t <:+: b₁)
include htags hclose

/-- A closing tag in the text around a block and in its body is there with either body. -/
theorem closeOf_isInfix_replace {t : Text} (ht : t ∈ tags) {pre post : Text}
    (h : Opening.closeOf t <:+: pre ++ (Block.source ⟨tag, a, some b₂⟩ ++ post)) :
    Opening.closeOf t <:+: pre ++ (Block.source ⟨tag, a, some b₁⟩ ++ post) := by
  obtain ⟨hopen, hbracket⟩ := htags t ht
  have hsource : ∀ body : Text, pre ++ (Block.source ⟨tag, a, some body⟩ ++ post) =
      (pre ++ '[' :: (tag ++ a) ++ [']']) ++ (body ++ '[' :: ('/' :: (tag ++ [']']) ++ post)) := by
    intro body
    simp [Block.source, Block.opening, Opening.source, Opening.closeOf]
  rw [hsource] at h ⊢
  rcases Opening.closeOf_isInfix_append_of_close hbracket h with h | h
  · exact h.trans (List.prefix_append _ _).isInfix
  · have hright : Opening.closeOf t <:+: b₁ ++ '[' :: ('/' :: (tag ++ [']']) ++ post) := by
      rcases Opening.closeOf_isInfix_append_of_open hopen h with h | h
      · exact (hclose t ht h).trans (List.prefix_append _ _).isInfix
      · exact h.trans (List.suffix_append _ _).isInfix
    exact hright.trans (List.suffix_append _ _).isInfix

/-- A block before the replaced one stands as it did. -/
theorem stands_replace {b : Block} {front : List (Text × Block)} {before : Text}
    (h : b.Stands tags
      (b.source ++ source ⟨front ++ (before, ⟨tag, a, some b₁⟩) :: back, tail⟩)
      (source ⟨front ++ (before, ⟨tag, a, some b₁⟩) :: back, tail⟩)) :
    b.Stands tags
      (b.source ++ source ⟨front ++ (before, ⟨tag, a, some b₂⟩) :: back, tail⟩)
      (source ⟨front ++ (before, ⟨tag, a, some b₂⟩) :: back, tail⟩) := by
  have htag := h.tag_mem
  cases hbody : b.body? with
  | some body => exact h.replace_after htags (by rw [hbody]; rfl) _
  | none =>
      obtain ⟨t, at', body?⟩ := b
      obtain rfl : body? = none := hbody
      obtain ⟨rest, hopening, hends⟩ := h
      have hsource : Block.source ⟨t, at', none⟩ = Opening.source ⟨t, at'⟩ ++ [] := rfl
      rw [hsource] at hopening ⊢
      refine ⟨_, hopening.replace_after htags, ?_, rfl⟩
      obtain ⟨hno, rfl⟩ := hends
      intro hin
      rw [source_middle] at hin hno
      exact hno (closeOf_isInfix_replace htags hclose htag hin)

theorem tiles_replace {before : Text} :
    ∀ {front : List (Text × Block)},
      Tiles tags tail (front ++ (before, ⟨tag, a, some b₁⟩) :: back) →
      Tiles tags tail (front ++ (before, ⟨tag, a, some b₂⟩) :: back) := by
  intro front
  induction front with
  | nil =>
      intro h
      obtain ⟨hplain, hstands, hback⟩ := h
      have htag := hstands.tag_mem
      have hno := hstands.closeOf_not_isInfix_body
      obtain ⟨rest, hopening, -⟩ := hstands
      have hsource : ∀ body : Text, Block.source ⟨tag, a, some body⟩ ++ source ⟨back, tail⟩ =
          '[' :: (tag ++ a) ++ ']' :: (body ++ (Opening.closeOf tag ++ source ⟨back, tail⟩)) := by
        intro body
        simp [Block.source, Block.opening, Opening.source]
      have hopeningSource : ∀ body : Text, Block.source ⟨tag, a, some body⟩ ++ source ⟨back, tail⟩ =
          Opening.source ⟨tag, a⟩ ++ [] ++
            (body ++ (Opening.closeOf tag ++ source ⟨back, tail⟩)) := by
        intro body
        simp [Block.source, Block.opening]
      refine ⟨?_, ?_, hback⟩
      · rw [hsource] at hplain ⊢
        exact hplain.replace_after htags
      · rw [hopeningSource] at hopening ⊢
        refine ⟨_, hopening.replace_after htags, ?_⟩
        exact Opening.firstCut_closeOf (htags tag htag).1
          (fun hin => hno (hclose tag htag hin)) _
  | cons tile front ih =>
      intro h
      obtain ⟨first, b⟩ := tile
      obtain ⟨hplain, hstands, hrest⟩ := h
      exact ⟨hplain.replace_after_source htags _, stands_replace htags hclose hstands, ih hrest⟩

/-- The block keeps its place under the new body, and so do all others. -/
theorem ofDocument_replace {front : List (Text × Block)} {before : Text}
    (h : ofDocument tags (source ⟨front ++ (before, ⟨tag, a, some b₁⟩) :: back, tail⟩) =
      ⟨front ++ (before, ⟨tag, a, some b₁⟩) :: back, tail⟩) :
    ofDocument tags (source ⟨front ++ (before, ⟨tag, a, some b₂⟩) :: back, tail⟩) =
      ⟨front ++ (before, ⟨tag, a, some b₂⟩) :: back, tail⟩ := by
  have htiles := (isTilingOf_iff.mpr h.symm).2
  exact ofDocument_source (tiles_replace htags hclose htiles)

end Replacement

end Tiling

end ContentVisibility
