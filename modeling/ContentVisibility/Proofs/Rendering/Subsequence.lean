import ContentVisibility.Proofs.Attributes
import ContentVisibility.Proofs.Rendering.Tiling
import ContentVisibility.Proofs.Selection
import Mathlib.Data.List.Flatten

/-! # What is rendered is what is written

Where nothing is put in the place of what is hidden and no test is asked for, the
resolved text of a block is its body or nothing.  A tiling whose blocks are filled
with subsequences of themselves is a subsequence of its document
(`Tiling.fill_sublist`), so by induction on the levels a rendered text is a
subsequence of the text that is rendered (`Renderer.render_sublist`). -/
set_option autoImplicit false

namespace ContentVisibility

theorem Tiling.fill_sublist {t : Tiling} {content : Block → Text}
    (h : ∀ tile ∈ t.tiles, (content tile.2).Sublist tile.2.source) :
    (t.fill content).Sublist t.source := by
  refine (List.Sublist.flatMap_right t.tiles fun tile htile => ?_).append_right t.tail
  exact (h tile htile).append_left tile.1

/-- No letters of the text spell `test`, be they capitals or small letters. -/
def Untested (s : Text) : Prop := ¬ "test".toList <:+: Text.lowerAscii s

theorem Untested.of_isInfix {s t : Text} (h : Untested s) (ht : t <:+: s) : Untested t :=
  fun htest => h (htest.trans (ht.map _))

namespace Renderer

variable {r : Renderer} {v : Viewer}

theorem value_resolveBlock_of_untested (hooks : r.selector.hooks = .none) {b : Block}
    (h : Untested b.attributes) :
    (r.resolveBlock v b).value =
      if r.selector.shows (Attributes.parse b.attributes).value v then b.body
      else r.selector.hiddenContent := by
  have hname : ¬ Keyword.text AttributeName.test <:+: Text.lowerAscii b.attributes := h
  have hparse : (Attributes.parse b.attributes).value.test = [] :=
    Attributes.get_parse_of_not_isInfix hname
  refine Selector.value_resolve_of_test_eq_nil ?_ b.body v
  rw [Selector.attributesOf, hooks]
  exact hparse

theorem renderWithin_sublist (hooks : r.selector.hooks = .none)
    (hidden : r.selector.hiddenContent = []) :
    ∀ (levels : Nat) (s : Text), Untested s → (r.renderWithin v levels s).value.Sublist s := by
  intro levels
  induction levels with
  | zero => intro s _; exact List.Sublist.refl s
  | succ levels ih =>
      intro s huntested
      have hblock : ∀ tile ∈ (Tiling.ofDocument r.tags s).tiles,
          (r.renderBlock v levels tile.2).value.Sublist tile.2.source := by
        intro tile htile
        obtain ⟨before, b⟩ := tile
        have hb : Untested b.source := huntested.of_isInfix (Tiling.source_isInfix_of_mem htile)
        have hresolve := value_resolveBlock_of_untested (v := v) hooks
          (hb.of_isInfix b.attributes_isInfix_source)
        have hsub : (r.resolveBlock v b).value <:+: b.source := by
          rw [hresolve, hidden]
          split
          · exact b.body_isInfix_source
          · exact List.nil_infix
        have hexpand := ih (r.resolveBlock v b).value (hb.of_isInfix hsub)
        simp only [renderBlock, Traced.value_bind, hooks]
        exact hexpand.trans hsub.sublist
      have hfill : ((Tiling.ofDocument r.tags s).fill
          fun b => (r.renderBlock v levels b).value).Sublist _ := Tiling.fill_sublist hblock
      rw [Tiling.source_ofDocument] at hfill
      rw [value_renderWithin_succ]
      exact hfill

/-- Without hooks, and with nothing put in the place of what is hidden, the characters
of a rendered document stand in the document in the same order, each of them once. -/
theorem render_sublist (r : Renderer) (v : Viewer) (document : Text)
    (hooks : r.selector.hooks = .none) (hidden : r.selector.hiddenContent = [])
    (untested : Untested document) : (r.render document v).value.Sublist document :=
  renderWithin_sublist hooks hidden (r.maxDepth + 1) document untested

/-- Blocks that overlap, close in the wrong order or never close, deeper than the limit. -/
theorem render_sublist_overlapping :
    let r : Renderer := ⟨{}, ["hide".toList, "hidethis".toList], 0⟩
    let document := "é[hide]a[hidethis for=Tes]b[/hide]\u3000[/hidethis][hide]t".toList
    Untested document ∧ (r.render document .anonymous).value.Sublist document := by
  intro r document
  have untested : Untested document := Text.cutAt?_eq_none_iff_not_isInfix.mp (by decide)
  exact ⟨untested, r.render_sublist .anonymous document rfl rfl untested⟩

end Renderer

end ContentVisibility
