import ContentVisibility.Proofs.Rendering.Reach
import Mathlib.Data.Finset.Card
import Mathlib.Data.Finset.Dedup

/-! # How deep blocks nest

The body of a closed block holds no closing tag of that block, and neither does
any text within it, whatever marker is put behind it.  So every level of nesting
uses up a tag: `height` counts the tags that can still be closed in a text and
falls from a text to the resolved text of each of its blocks
(`height_resolveBlock_lt`).

With `k` different tags no text is rendered deeper than `k + 1`, and a depth
limit of `k` or more is not felt (`render_of_tags_card_le`). -/
set_option autoImplicit false

namespace ContentVisibility

namespace Renderer

def closable (r : Renderer) (s : Text) : Finset Text :=
  r.tags.toFinset.filter fun t => Opening.closeOf t <:+: s

/-- A text without an opening bracket has no blocks and the height 0. -/
def height (r : Renderer) (s : Text) : Nat :=
  if '[' ∈ s then (r.closable s).card + 1 else 0

theorem height_le (r : Renderer) (s : Text) : r.height s ≤ r.tags.toFinset.card + 1 := by
  have hcard : (r.closable s).card ≤ r.tags.toFinset.card :=
    Finset.card_le_card (Finset.filter_subset _ _)
  rw [height]
  split
  · omega
  · omega

theorem open_not_mem_of_height_eq_zero {r : Renderer} {s : Text} (h : r.height s = 0) :
    '[' ∉ s := by
  intro hmem
  rw [height, if_pos hmem] at h
  omega

theorem closable_subset (r : Renderer) {s u marker : Text} (hmarker : ']' ∉ marker) (h : u <:+: s) :
    r.closable (u ++ marker) ⊆ r.closable s := by
  intro t ht
  obtain ⟨hmem, hclose⟩ := Finset.mem_filter.mp ht
  have hu : Opening.closeOf t <:+: u := by
    rw [Opening.closeOf_eq] at hclose ⊢
    exact Text.isInfix_of_isInfix_append hclose hmarker
  exact Finset.mem_filter.mpr ⟨hmem, hu.trans h⟩

/-- A closed block uses up its tag. -/
theorem closable_ssubset (r : Renderer) {s before body marker : Text} {b : Block}
    (tile : (before, b) ∈ (Tiling.ofDocument r.tags s).tiles) (hbody : b.body? = some body)
    (hmarker : ']' ∉ marker) : r.closable (b.body ++ marker) ⊂ r.closable s := by
  obtain ⟨after, hstands, -⟩ := Tiling.stands_of_mem tile
  have hsource := Tiling.source_isInfix_of_mem tile
  have hsubset := r.closable_subset hmarker (b.body_isInfix_source.trans hsource)
  have hin : b.tag ∈ r.closable s := by
    refine Finset.mem_filter.mpr ⟨List.mem_toFinset.mpr hstands.tag_mem, ?_⟩
    exact (Block.closeOf_isInfix_source hbody).trans hsource
  have hout : b.tag ∉ r.closable (b.body ++ marker) := by
    intro hmem
    have hclose := (Finset.mem_filter.mp hmem).2
    rw [Opening.closeOf_eq] at hclose
    exact hstands.closeOf_not_isInfix_body (Text.isInfix_of_isInfix_append hclose hmarker)
  exact (Finset.ssubset_iff_of_subset hsubset).mpr ⟨b.tag, hin, hout⟩

section Height
variable {r : Renderer} (hidden : '[' ∉ r.selector.hiddenContent)
include hidden

/-- The step from a text to the resolved text of one of its blocks. -/
theorem height_resolveBlock_lt (v : Viewer) {s before : Text} {b : Block}
    (tile : (before, b) ∈ (Tiling.ofDocument r.tags s).tiles) :
    r.height (r.resolveBlock v b).value < r.height s := by
  have hopen : '[' ∈ s := Tiling.open_mem_of_mem tile
  have hheight : r.height s = (r.closable s).card + 1 := if_pos hopen
  by_cases hnone : '[' ∈ (r.resolveBlock v b).value
  · -- the bracket is in the body, so the block is closed
    obtain ⟨-, hbody, marker, hmarker, hvalue⟩ := shown_of_open_mem hidden hnone
    cases hbody? : b.body? with
    | none =>
        rw [Block.body, hbody?] at hbody
        exact absurd hbody List.not_mem_nil
    | some body =>
        have hlt := Finset.card_lt_card (r.closable_ssubset tile hbody? hmarker)
        rw [hheight, height, if_pos hnone, hvalue]
        omega
  · rw [hheight, height, if_neg hnone]
    omega

/-! ## Levels -/

omit hidden in
theorem value_renderWithin_of_open_not_mem (v : Viewer) {s : Text} (h : '[' ∉ s) (levels : Nat) :
    (r.renderWithin v levels s).value = s := by
  cases levels with
  | zero => rfl
  | succ levels => simp [value_renderWithin_succ, Tiling.ofDocument_of_open_not_mem h]

/-- As many levels as the text is high are enough. -/
theorem value_renderWithin_of_height_le (v : Viewer) :
    ∀ (m n : Nat) (s : Text), r.height s ≤ m → r.height s ≤ n →
      (r.renderWithin v m s).value = (r.renderWithin v n s).value := by
  intro m
  induction m with
  | zero =>
      intro n s hm _
      have hopen : '[' ∉ s := open_not_mem_of_height_eq_zero (Nat.le_zero.mp hm)
      rw [value_renderWithin_of_open_not_mem v hopen, value_renderWithin_of_open_not_mem v hopen]
  | succ m ih =>
      intro n s hm hn
      cases n with
      | zero =>
          have hopen : '[' ∉ s := open_not_mem_of_height_eq_zero (Nat.le_zero.mp hn)
          rw [value_renderWithin_of_open_not_mem v hopen,
            value_renderWithin_of_open_not_mem v hopen]
      | succ n =>
          apply value_renderWithin_succ_congr
          intro tile htile
          have hlt := height_resolveBlock_lt hidden v htile
          have heq := ih n (r.resolveBlock v tile.2).value (by omega) (by omega)
          simp only [renderBlock, Traced.value_bind, heq]

theorem Reaches.depth_add_height_le {v : Viewer} {document s : Text} {depth : Nat}
    (h : r.Reaches v document depth s) : depth + r.height s ≤ r.height document := by
  induction h with
  | document => omega
  | block _ _ tile ih =>
      have hlt := height_resolveBlock_lt hidden v tile
      omega

end Height

/-- With `k` different tags, and no bracket in the hidden content: no text is
rendered deeper than `k + 1`; limits from `k` on give the same output and leave no
block unexpanded, and one beyond `k` is not warned of.  With the default tags the
default limit is not passed. -/
theorem render_of_tags_card_le (r : Renderer) (v : Viewer) (document : Text)
    (hidden : '[' ∉ r.selector.hiddenContent) :
    (∀ limit depth s, (r.withMaxDepth limit).Reaches v document depth s →
      depth ≤ r.tags.toFinset.card + 1) ∧
    (∀ limit, r.tags.toFinset.card ≤ limit →
      ((r.withMaxDepth limit).render document v).value =
        ((r.withMaxDepth r.tags.toFinset.card).render document v).value) ∧
    (∀ limit, r.tags.toFinset.card ≤ limit →
      ∀ s, (r.withMaxDepth limit).Reaches v document (limit + 1) s →
        (Tiling.ofDocument r.tags s).tiles = []) ∧
    (∀ limit, r.tags.toFinset.card < limit →
      ∀ depth, nestingWarning depth ∉ ((r.withMaxDepth limit).render document v).events) ∧
    (r.tags = ({} : RenderSettings).tags → ∀ s,
      ¬ (r.withMaxDepth ({} : RenderSettings).maxDepth).Reaches v document
        (({} : RenderSettings).maxDepth + 1) s) := by
  have hheight := r.height_le document
  have hbound : ∀ limit depth s, (r.withMaxDepth limit).Reaches v document depth s →
      depth + r.height s ≤ r.height document := by
    intro limit depth s hreach
    exact Reaches.depth_add_height_le (r := r.withMaxDepth limit) hidden hreach
  refine ⟨?_, ?_, ?_, ?_, ?_⟩
  · intro limit depth s hreach
    have := hbound limit depth s hreach
    omega
  · intro limit hlimit
    simp only [render, value_renderWithin_withMaxDepth]
    exact value_renderWithin_of_height_le hidden v _ _ document
      (hheight.trans (Nat.succ_le_succ hlimit)) hheight
  · intro limit hlimit s hreach
    have hlow : r.height s = 0 := by
      have := hbound limit (limit + 1) s hreach
      omega
    rw [Tiling.ofDocument_of_open_not_mem (open_not_mem_of_height_eq_zero hlow)]
  · intro limit hlimit depth hmem
    obtain ⟨-, s, hreach⟩ := warning_iff_reaches.mp hmem
    have : limit + 1 + r.height s ≤ r.height document := hbound limit (limit + 1) s hreach
    omega
  · intro htags s hreach
    have hcard : r.tags.toFinset.card < ({} : RenderSettings).maxDepth := by
      rw [htags]
      decide
    have := hbound _ _ s hreach
    omega

/-- One tag in the other: the limits 2 and 7 make no difference. -/
theorem render_of_tags_card_le_nested :
    let r : Renderer := ⟨{}, ["hide".toList, "hidethis".toList], 2⟩
    let document := "[hide][hidethis][hide]x[/hidethis][/hide]".toList
    '[' ∉ r.selector.hiddenContent ∧
      ((r.withMaxDepth 7).render document {}).value = (r.render document {}).value ∧
      ∀ s, ¬ (r.withMaxDepth 4).Reaches {} document 5 s := by
  intro r document
  obtain ⟨-, hsame, -, -, hdefault⟩ := r.render_of_tags_card_le {} document (by decide)
  exact ⟨by decide, hsame 7 (by decide), hdefault rfl⟩

end Renderer

end ContentVisibility
