import ContentVisibility.Proofs.Rendering.Reach
import ContentVisibility.Proofs.Shortcode.TagSet

/-! # Documents of one block

A document that is one closed block has that block as its only tile.  A text in which
no tag fits is left as it is on every level, and a marker behind it completes no
opening tag.  So where neither the body nor the hidden content holds an opening tag,
rendering the block is selecting its content, whatever the depth limit
(`Renderer.render_alike_select`). -/
set_option autoImplicit false

namespace ContentVisibility

namespace Block

theorem Plain.append {tags : List Text} {s marker : Text} (h : Plain tags s [])
    (hmarker : ']' ∉ marker) : Plain tags (s ++ marker) [] := by
  intro u w hw _ t ht hfits
  obtain ⟨a, after, hpart, hs⟩ := hfits
  -- the opening tag ends in a bracket, so it lies in front of the marker
  have heq : s ++ marker = (u ++ '[' :: (t ++ a) ++ [']']) ++ after := by
    rw [List.append_nil] at hs
    rw [hw, hs]
    simp [Opening.source]
  obtain ⟨rest, hrest, -⟩ := Text.exists_eq_of_append_eq heq hmarker
  refine h u (Opening.source ⟨t, a⟩ ++ rest) ?_ ?_ t ht ⟨a, rest, hpart, List.append_nil _⟩
  · rw [hrest]
    simp [Opening.source]
  · simp [Opening.source]

end Block

namespace Tiling

theorem ofDocument_of_plain {tags : List Text} {s : Text} (h : Block.Plain tags s []) :
    ofDocument tags s = ⟨[], s⟩ :=
  ofDocument_of_none (Block.first?_eq_none_iff.mpr h)

theorem ofDocument_source_of_closed {tags : List Text}
    (htags : ∀ t ∈ tags, ∀ c ∈ t, Settings.isTagChar c = true) {tag raw body : Text}
    (mem : tag ∈ tags) (part : Opening.IsAttributePart raw)
    (unclosed : ¬ Opening.closeOf tag <:+: body) :
    ofDocument tags (Block.source ⟨tag, raw, some body⟩) = ⟨[([], ⟨tag, raw, some body⟩)], []⟩ := by
  have hopen : '[' ∉ tag := (Settings.unbracketed_of_isTagChar htags tag mem).1
  have hopening : Opening.Stands tags ⟨tag, raw⟩ (Block.source ⟨tag, raw, some body⟩ ++ [])
      (body ++ (Opening.closeOf tag ++ [])) := by
    refine (Opening.stands_iff htags).mpr ⟨?_, part, mem⟩
    simp [Block.source, Block.opening]
  have hends : Block.Ends ⟨tag, raw, some body⟩ (body ++ (Opening.closeOf tag ++ [])) [] :=
    Opening.firstCut_closeOf hopen unclosed []
  have htiles : Tiles tags [] [([], ⟨tag, raw, some body⟩)] :=
    ⟨Block.plain_nil tags _, ⟨_, hopening, hends⟩, Block.plain_nil tags _⟩
  have hsource : Block.source ⟨tag, raw, some body⟩ =
      source ⟨[([], ⟨tag, raw, some body⟩)], []⟩ := by simp [source]
  rw [hsource]
  exact ofDocument_source htiles

end Tiling

namespace Renderer

variable {r : Renderer} {v : Viewer}

theorem renderWithin_alike_of_plain {s : Text} (h : Block.Plain r.tags s []) (levels : Nat) :
    (r.renderWithin v levels s).Alike (pure s) := by
  cases levels with
  | zero => exact ⟨rfl, rfl⟩
  | succ levels =>
      have htiling := Tiling.ofDocument_of_plain h
      constructor
      · rw [value_renderWithin_succ, htiling]
        rfl
      · rw [calls_renderWithin_succ, htiling]
        rfl

theorem renderWithin_alike_of_single {levels : Nat} {s : Text} {b : Block}
    (h : Tiling.ofDocument r.tags s = ⟨[([], b)], []⟩) :
    (r.renderWithin v (levels + 1) s).Alike (r.renderBlock v levels b) := by
  constructor
  · simp [value_renderWithin_succ, h]
  · simp [calls_renderWithin_succ, h]

/-- The resolved text is what the content hook gets when no block is in it. -/
theorem renderBlock_alike_of_plain {b : Block}
    (h : Block.Plain r.tags (r.resolveBlock v b).value []) (levels : Nat) :
    (r.renderBlock v levels b).Alike (do r.selector.hooks.applyContent (← r.resolveBlock v b)) := by
  obtain ⟨hvalue, hcalls⟩ := renderWithin_alike_of_plain (v := v) h levels
  constructor
  · simp only [renderBlock, Traced.value_bind, hvalue, Traced.value_pure]
  · simp only [renderBlock, Traced.calls_bind, hvalue, hcalls, Traced.value_pure,
      Traced.calls_pure, List.nil_append]

theorem plain_resolveBlock {b : Block} (plainBody : Block.Plain r.tags b.body [])
    (plainHidden : Block.Plain r.tags r.selector.hiddenContent []) :
    Block.Plain r.tags (r.resolveBlock v b).value [] := by
  obtain ⟨marker, -, hmarker, hvalue⟩ := r.value_resolveBlock_cases v b
  rw [hvalue]
  split
  · exact plainBody.append hmarker
  · exact plainHidden.append hmarker

/-- Rendering a document of one block does what selecting does with the attributes and
the body of the block: it yields the same text and makes the same calls.  Without hooks
and hidden content that is `resolveVisibility`. -/
theorem render_alike_select (r : Renderer) (v : Viewer) {tag raw body : Text}
    (tags : ∀ t ∈ r.tags, ∀ c ∈ t, Settings.isTagChar c = true) (mem : tag ∈ r.tags)
    (part : Opening.IsAttributePart raw) (unclosed : ¬ Opening.closeOf tag <:+: body)
    (plainBody : Block.Plain r.tags body [])
    (plainHidden : Block.Plain r.tags r.selector.hiddenContent []) :
    (r.render (Block.source ⟨tag, raw, some body⟩) v).Alike (do
      let attributes ← Attributes.parse raw
      r.selector.select attributes body v) ∧
    (r.selector = {} → (r.render (Block.source ⟨tag, raw, some body⟩) v).Alike (do
      let attributes ← Attributes.parse raw
      resolveVisibility attributes.audience attributes.exclude attributes.test body v)) := by
  have hsingle := Tiling.ofDocument_source_of_closed tags mem part unclosed
  have hblock : (r.render (Block.source ⟨tag, raw, some body⟩) v).Alike
      (r.renderBlock v r.maxDepth ⟨tag, raw, some body⟩) := renderWithin_alike_of_single hsingle
  have hselect : (r.renderBlock v r.maxDepth ⟨tag, raw, some body⟩).Alike (do
      let attributes ← Attributes.parse raw
      r.selector.select attributes body v) := by
    have h := renderBlock_alike_of_plain (v := v) (b := ⟨tag, raw, some body⟩)
      (plain_resolveBlock plainBody plainHidden) r.maxDepth
    rw [resolveBlock, bind_assoc] at h
    exact h
  have halike := hblock.trans hselect
  refine ⟨halike, fun hselector => ?_⟩
  rw [hselector] at halike
  exact halike

/-- The body and the hidden content end in opening tags that lack their bracket, and a
marker comes behind them. -/
theorem render_alike_select_half_open :
    let hooks : Hooks := { content := some fun s => '<' :: s }
    let r : Renderer :=
      ⟨{ hooks, hiddenContent := "[hide".toList }, ["hide".toList, "hidethis".toList], 0⟩
    let body := "a[hidethis".toList
    (r.render (Block.source ⟨"hide".toList, " test=content".toList, some body⟩) {}).Alike (do
      let attributes ← Attributes.parse " test=content".toList
      r.selector.select attributes body {}) := by
  intro hooks r body
  have tags : Settings.readTags? "hide,hidethis".toList = some r.tags := by decide
  have part : Opening.IsAttributePart " test=content".toList :=
    Or.inr ⟨' ', "test=content".toList, rfl, by decide, by decide⟩
  have unclosed : ¬ Opening.closeOf "hide".toList <:+: body :=
    Text.cutAt?_eq_none_iff_not_isInfix.mp (by decide)
  have plainBody : Block.Plain r.tags body [] := Block.first?_eq_none_iff.mp (by decide)
  have plainHidden : Block.Plain r.tags r.selector.hiddenContent [] :=
    Block.first?_eq_none_iff.mp (by decide)
  exact (r.render_alike_select {} (Settings.readTags?_eq_some_iff.mp tags).2.2 (by decide) part
    unclosed plainBody plainHidden).1

end Renderer

end ContentVisibility
