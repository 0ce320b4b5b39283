import ContentVisibility.Proofs.Rendering.Reach
import ContentVisibility.Proofs.Shortcode.TagSet

/-! # Hidden bodies stay secret

`Resolves` says that rendering comes to a block of the document at its place:
the block is a tile of the document, or stands in the body of a tile whose
resolved text is that body with a marker behind it, and rendering that text comes
to it.  These are the blocks of the texts that are reached
(`exists_resolves_iff`).

Where such a block is hidden from the viewer and its test does not ask for its
body, any other body without closing tags yields the same page and the same calls
of the host (`render_alike_of_hidden`). -/
set_option autoImplicit false

namespace ContentVisibility

def Tiling.BlockAt (tags : List Text) (pre : Text) (b : Block) (post : Text) : Prop :=
  ∃ front before back tail,
    ofDocument tags (pre ++ (b.source ++ post)) = ⟨front ++ (before, b) :: back, tail⟩ ∧
      pre = textOf front ++ before

namespace Renderer

/-- With the given number of levels, rendering the text that `pre`, the block and
`post` make comes to this block. -/
inductive Resolves (r : Renderer) (v : Viewer) : Nat → Text → Block → Text → Prop where
  | tile {levels : Nat} {pre post : Text} {b : Block} (place : Tiling.BlockAt r.tags pre b post) :
      Resolves r v (levels + 1) pre b post
  | nested {levels : Nat} {pre post tag a inner after marker : Text} {b : Block}
      (outer : Tiling.BlockAt r.tags pre ⟨tag, a, some (inner ++ (b.source ++ after))⟩ post)
      (resolved : (r.resolveBlock v ⟨tag, a, some (inner ++ (b.source ++ after))⟩).value =
        inner ++ (b.source ++ after) ++ marker)
      (deeper : Resolves r v levels inner b (after ++ marker)) :
      Resolves r v (levels + 1) (pre ++ (Opening.source ⟨tag, a⟩ ++ inner)) b
        (after ++ (Opening.closeOf tag ++ post))

end Renderer

namespace Tiling

section Place
variable {tags : List Text} {pre post : Text}

theorem BlockAt.exists_tile {b : Block} (h : BlockAt tags pre b post) :
    ∃ before, (before, b) ∈ (ofDocument tags (pre ++ (b.source ++ post))).tiles := by
  obtain ⟨front, before, back, tail, hdocument, -⟩ := h
  exact ⟨before, by rw [hdocument]; simp⟩

theorem exists_blockAt_of_mem {document before : Text} {b : Block}
    (h : (before, b) ∈ (ofDocument tags document).tiles) :
    ∃ pre post, document = pre ++ (b.source ++ post) ∧ BlockAt tags pre b post := by
  obtain ⟨front, back, htiles⟩ := List.append_of_mem h
  have hdocument : ofDocument tags document =
      ⟨front ++ (before, b) :: back, (ofDocument tags document).tail⟩ := by rw [← htiles]
  have hsource : document =
      textOf front ++ before ++ (b.source ++ source ⟨back, (ofDocument tags document).tail⟩) := by
    have h := source_ofDocument tags document
    rw [hdocument, source_append, source_cons] at h
    rw [← List.append_assoc] at h
    exact h.symm
  refine ⟨textOf front ++ before, source ⟨back, (ofDocument tags document).tail⟩, hsource,
    front, before, back, (ofDocument tags document).tail, ?_, rfl⟩
  rw [← hsource]
  exact hdocument

theorem blockAt_of_first? {b : Block}
    (h : Block.first? tags (pre ++ (b.source ++ post)) = some (pre, b, post)) :
    BlockAt tags pre b post :=
  ⟨[], pre, (ofDocument tags post).tiles, (ofDocument tags post).tail, ofDocument_of_some h, rfl⟩

/-- A tile stays a tile under another body, between the same tiles. -/
theorem BlockAt.replace (htags : Unbracketed tags) {tag a b₁ b₂ : Text}
    (h : BlockAt tags pre ⟨tag, a, some b₁⟩ post)
    (hclose : ∀ t ∈ tags, Opening.closeOf t <:+: b₂ → Opening.closeOf t <:+: b₁) :
    ∃ front before back tail,
      ofDocument tags (pre ++ (Block.source ⟨tag, a, some b₁⟩ ++ post)) =
        ⟨front ++ (before, ⟨tag, a, some b₁⟩) :: back, tail⟩ ∧
      ofDocument tags (pre ++ (Block.source ⟨tag, a, some b₂⟩ ++ post)) =
        ⟨front ++ (before, ⟨tag, a, some b₂⟩) :: back, tail⟩ := by
  obtain ⟨front, before, back, tail, hdocument, rfl⟩ := h
  have hpost : post = source ⟨back, tail⟩ := by
    have hsource := source_ofDocument tags
      (textOf front ++ before ++ (Block.source ⟨tag, a, some b₁⟩ ++ post))
    rw [hdocument, source_append, source_cons, ← List.append_assoc] at hsource
    exact (List.append_cancel_left (List.append_cancel_left hsource)).symm
  have haround : ∀ body : Text,
      textOf front ++ before ++ (Block.source ⟨tag, a, some body⟩ ++ post) =
        source ⟨front ++ (before, ⟨tag, a, some body⟩) :: back, tail⟩ := by
    intro body
    rw [hpost, source_append, source_cons, List.append_assoc]
  refine ⟨front, before, back, tail, hdocument, ?_⟩
  rw [haround] at hdocument ⊢
  exact ofDocument_replace htags hclose hdocument

end Place

end Tiling

namespace Renderer

section Reach
variable {r : Renderer} {v : Viewer} {document : Text}

/-- A block that rendering comes to is a tile of a text that is reached. -/
theorem Resolves.exists_reaches {levels : Nat} {pre post : Text} {b : Block}
    (h : r.Resolves v levels pre b post) :
    ∀ depth, r.Reaches v document depth (pre ++ (b.source ++ post)) →
      depth + levels = r.maxDepth + 1 →
      ∃ n s before, r.Reaches v document n s ∧ n ≤ r.maxDepth ∧
        (before, b) ∈ (Tiling.ofDocument r.tags s).tiles := by
  induction h with
  | tile place =>
      intro depth hreach hlevels
      obtain ⟨before, htile⟩ := place.exists_tile
      exact ⟨depth, _, before, hreach, by omega, htile⟩
  | @nested levels pre post tag a inner after marker b outer resolved deeper ih =>
      intro depth hreach hlevels
      obtain ⟨before, htile⟩ := outer.exists_tile
      have hsource : pre ++ (Opening.source ⟨tag, a⟩ ++ inner) ++
          (b.source ++ (after ++ (Opening.closeOf tag ++ post))) =
          pre ++ (Block.source ⟨tag, a, some (inner ++ (b.source ++ after))⟩ ++ post) := by
        simp [Block.source, Block.opening]
      rw [hsource] at hreach
      have hdeeper := hreach.block (by omega) htile
      rw [resolved] at hdeeper
      refine ih (depth + 1) ?_ (by omega)
      simpa using hdeeper

/-- A text that is reached stands in the document, up to the marker behind it: a
block that rendering comes to in the text is one that it comes to in the document. -/
theorem Reaches.exists_resolves (hidden : '[' ∉ r.selector.hiddenContent) {n : Nat} {s : Text}
    (h : r.Reaches v document n s) :
    ∀ levels p b q, n + levels = r.maxDepth + 1 → s = p ++ (b.source ++ q) →
      r.Resolves v levels p b q →
      ∃ pre post, document = pre ++ (b.source ++ post) ∧
        r.Resolves v (r.maxDepth + 1) pre b post := by
  induction h with
  | document =>
      intro levels p b q hlevels hs hresolves
      obtain rfl : levels = r.maxDepth + 1 := by omega
      exact ⟨p, q, hs, hresolves⟩
  | @block n s before outer _ _ htile ih =>
      intro levels p b q hlevels hs hresolves
      have hopen : '[' ∈ (r.resolveBlock v outer).value := by
        rw [hs]
        exact List.mem_append_right _ (List.mem_append_left _ b.open_mem_source)
      obtain ⟨-, hbody, marker, hmarker, hvalue⟩ := shown_of_open_mem hidden hopen
      obtain ⟨pre, post, hplace, houter⟩ := Tiling.exists_blockAt_of_mem htile
      obtain ⟨tag, a, body?⟩ := outer
      cases body? with
      | none => exact absurd hbody List.not_mem_nil
      | some body =>
          -- the block ends in a bracket, so it lies in front of the marker
          obtain ⟨front, hfront⟩ := b.exists_source_eq
          have heq : body ++ marker = ((p ++ front) ++ [']']) ++ q := by
            have h := hvalue.symm.trans hs
            rw [hfront] at h
            simpa [Block.body] using h
          obtain ⟨after, hafter, rfl⟩ := Text.exists_eq_of_append_eq heq hmarker
          obtain rfl : body = p ++ (b.source ++ after) := by
            rw [hafter, hfront]
            simp
          refine ih (levels + 1) (pre ++ (Opening.source ⟨tag, a⟩ ++ p)) b
            (after ++ (Opening.closeOf tag ++ post)) (by omega) ?_ ?_
          · rw [hplace]
            simp [Block.source, Block.opening]
          · exact .nested houter hvalue hresolves

theorem exists_resolves_iff (hidden : '[' ∉ r.selector.hiddenContent) {b : Block} :
    (∃ pre post, document = pre ++ (b.source ++ post) ∧ r.Resolves v (r.maxDepth + 1) pre b post) ↔
      ∃ depth s before, r.Reaches v document depth s ∧ depth ≤ r.maxDepth ∧
        (before, b) ∈ (Tiling.ofDocument r.tags s).tiles := by
  constructor
  · intro h
    obtain ⟨pre, post, rfl, hresolves⟩ := h
    exact hresolves.exists_reaches 0 .document (by omega)
  · intro h
    obtain ⟨depth, s, before, hreach, hdepth, htile⟩ := h
    obtain ⟨p, q, hs, hplace⟩ := Tiling.exists_blockAt_of_mem htile
    refine hreach.exists_resolves hidden (r.maxDepth - depth + 1) p b q (by omega) hs ?_
    exact .tile hplace

end Reach

/-! ## Two bodies of a hidden block -/

section Hidden
variable {r : Renderer} {v : Viewer}

/-- One block more or less is all that two documents differ in: they are rendered
alike if the two blocks are. -/
theorem renderWithin_alike_of_renderBlock_alike {levels : Nat} {d₁ d₂ before tail : Text}
    {front back : List (Text × Block)} {x y : Block}
    (h₁ : Tiling.ofDocument r.tags d₁ = ⟨front ++ (before, x) :: back, tail⟩)
    (h₂ : Tiling.ofDocument r.tags d₂ = ⟨front ++ (before, y) :: back, tail⟩)
    (h : (r.renderBlock v levels x).Alike (r.renderBlock v levels y)) :
    (r.renderWithin v (levels + 1) d₁).Alike (r.renderWithin v (levels + 1) d₂) := by
  obtain ⟨hvalue, hcalls⟩ := h
  constructor
  · simp only [value_renderWithin_succ, h₁, h₂, List.flatMap_append, List.flatMap_cons, hvalue]
  · simp only [calls_renderWithin_succ, h₁, h₂, List.flatMap_append, List.flatMap_cons, hcalls]

theorem renderBlock_alike {levels : Nat} {x y : Block}
    (hresolve : (r.resolveBlock v x).calls = (r.resolveBlock v y).calls)
    (hrender : (r.renderWithin v levels (r.resolveBlock v x).value).Alike
      (r.renderWithin v levels (r.resolveBlock v y).value)) :
    (r.renderBlock v levels x).Alike (r.renderBlock v levels y) := by
  obtain ⟨hvalue, hcalls⟩ :=
    hrender.bind fun s => Traced.Alike.refl (r.selector.hooks.applyContent s)
  constructor
  · exact hvalue
  · simp only [renderBlock, Traced.calls_bind, hresolve] at hcalls ⊢
    rw [hcalls]

theorem calls_resolveBlock (tag a : Text) (body₁ body₂ : Option Text) :
    (r.resolveBlock v ⟨tag, a, body₁⟩).calls = (r.resolveBlock v ⟨tag, a, body₂⟩).calls := by
  simp only [resolveBlock, Traced.calls_bind, Selector.calls_resolve]

/-- The resolved text of a hidden block does not show which body it has. -/
theorem value_resolveBlock_of_hidden {tag raw b₁ b₂ : Text}
    (hides : r.selector.shows (Attributes.parse raw).value v = false)
    (test : (r.selector.attributesOf (Attributes.parse raw).value).test ≠
      Keyword.text TestMode.content) :
    (r.resolveBlock v ⟨tag, raw, some b₁⟩).value =
      (r.resolveBlock v ⟨tag, raw, some b₂⟩).value := by
  simp only [resolveBlock, Traced.value_bind, Selector.value_resolve, hides, annotate,
    Bool.false_eq_true, if_false]
  rw [testMarker_of_ne_content test _ (Block.body ⟨tag, raw, some b₂⟩)]

/-- The resolved text of a shown block is its body and a marker that all bodies
with something in them share. -/
theorem value_resolveBlock_of_shown {tag raw x y marker : Text}
    (shown : r.selector.shows (Attributes.parse raw).value v = true)
    (h : (r.resolveBlock v ⟨tag, raw, some x⟩).value = x ++ marker) (hx : x ≠ []) (hy : y ≠ []) :
    (r.resolveBlock v ⟨tag, raw, some y⟩).value = y ++ marker := by
  simp only [resolveBlock, Traced.value_bind, Selector.value_resolve, shown, annotate,
    if_true, Block.body, Option.getD_some] at h ⊢
  have hmarker := List.append_cancel_left h
  rw [testMarker_self hx hy] at hmarker
  rw [hmarker]

theorem Resolves.renderWithin_alike (htags : Unbracketed r.tags)
    (hidden : '[' ∉ r.selector.hiddenContent) {tag raw b₁ b₂ : Text}
    (hides : r.selector.shows (Attributes.parse raw).value v = false)
    (test : (r.selector.attributesOf (Attributes.parse raw).value).test ≠
      Keyword.text TestMode.content)
    (hclose : ∀ t ∈ r.tags, Opening.closeOf t <:+: b₂ → Opening.closeOf t <:+: b₁)
    {levels : Nat} {pre post : Text} {b : Block} (h : r.Resolves v levels pre b post)
    (hb : b = ⟨tag, raw, some b₁⟩) :
    (r.renderWithin v levels (pre ++ (b.source ++ post))).Alike
      (r.renderWithin v levels (pre ++ (Block.source ⟨tag, raw, some b₂⟩ ++ post))) := by
  induction h with
  | tile place =>
      subst hb
      obtain ⟨front, before, back, tail, h₁, h₂⟩ := place.replace htags hclose
      apply renderWithin_alike_of_renderBlock_alike h₁ h₂
      apply renderBlock_alike (calls_resolveBlock _ _ _ _)
      rw [value_resolveBlock_of_hidden hides test]
      exact Traced.Alike.refl _
  | @nested levels pre post outerTag a inner after marker b outer resolved deeper ih =>
      subst hb
      -- the two documents differ in the body of the outer block, which is shown
      have hbody : ∀ body : Text, pre ++ (Opening.source ⟨outerTag, a⟩ ++ inner) ++
          (Block.source ⟨tag, raw, some body⟩ ++ (after ++ (Opening.closeOf outerTag ++ post))) =
          pre ++ (Block.source ⟨outerTag, a,
            some (inner ++ (Block.source ⟨tag, raw, some body⟩ ++ after))⟩ ++ post) := by
        intro body
        simp [Block.source, Block.opening]
      have hopen : ∀ body : Text,
          '[' ∈ inner ++ (Block.source ⟨tag, raw, some body⟩ ++ after) := by
        intro body
        exact List.mem_append_right _ (List.mem_append_left _ (Block.open_mem_source _))
      obtain ⟨front, before, back, tail, h₁, h₂⟩ := outer.replace htags
        fun t ht => Tiling.closeOf_isInfix_replace htags hclose ht
      rw [hbody, hbody]
      apply renderWithin_alike_of_renderBlock_alike h₁ h₂
      apply renderBlock_alike (calls_resolveBlock _ _ _ _)
      have hshown := (shown_of_open_mem hidden
        (by rw [resolved]; exact List.mem_append_left _ (hopen b₁))).1
      rw [resolved, value_resolveBlock_of_shown hshown resolved (List.ne_nil_of_mem (hopen b₁))
        (List.ne_nil_of_mem (hopen b₂))]
      simpa using ih rfl

/-- A body that is hidden from the viewer does not show.  The other body may hold
opening tags and brackets, but no closing tag. -/
theorem render_alike_of_hidden (r : Renderer) (v : Viewer) {tag raw b₁ b₂ pre post : Text}
    (tags : ∀ t ∈ r.tags, ∀ c ∈ t, Settings.isTagChar c = true)
    (hidden : '[' ∉ r.selector.hiddenContent)
    (resolved : r.Resolves v (r.maxDepth + 1) pre ⟨tag, raw, some b₁⟩ post)
    (hides : r.selector.shows (Attributes.parse raw).value v = false)
    (test : (r.selector.attributesOf (Attributes.parse raw).value).test ≠
      Keyword.text TestMode.content)
    (plain : ∀ t ∈ r.tags, ¬ Opening.closeOf t <:+: b₂) :
    (r.render (pre ++ (Block.source ⟨tag, raw, some b₁⟩ ++ post)) v).Alike
      (r.render (pre ++ (Block.source ⟨tag, raw, some b₂⟩ ++ post)) v) := by
  have htags := Settings.unbracketed_of_isTagChar tags
  have hclose : ∀ t ∈ r.tags, Opening.closeOf t <:+: b₂ → Opening.closeOf t <:+: b₁ := by
    intro t ht hin
    exact absurd hin (plain t ht)
  exact resolved.renderWithin_alike htags hidden hides test hclose rfl

/-- A hidden block within a block that is shown. -/
theorem render_alike_of_hidden_within_shown :
    let r : Renderer := ⟨{}, ["hide".toList, "hidethis".toList], 1⟩
    let document := fun body : Text => Opening.source ⟨"hide".toList, []⟩ ++
      (Block.source ⟨"hidethis".toList, " for=staff".toList, some body⟩ ++
        Opening.closeOf "hide".toList)
    (r.render (document "x".toList) {}).Alike (r.render (document "[hide]".toList) {}) := by
  intro r document
  have hscan : Assignment.scan " for=staff".toList = [⟨"for".toList, "staff".toList⟩] := by
    have hread : Assignment.read? "for=staff".toList =
        some (⟨"for".toList, "staff".toList⟩, []) := by decide
    have hskip : Assignment.skip " for=staff".toList = "for=staff".toList := by decide
    have hblank : Assignment.read? (' ' :: "for=staff".toList) = none := by decide
    rw [← Assignment.scan_nil, ← Assignment.scan_of_read?_some hread, ← hskip]
    exact Assignment.scan_of_read?_none hblank
  have hparse : (Attributes.parse " for=staff".toList).value = { audience := "staff".toList } := by
    rw [Attributes.parse, hscan]
    decide
  have outer : Tiling.BlockAt r.tags [] ⟨"hide".toList, [], some
      ([] ++ (Block.source ⟨"hidethis".toList, " for=staff".toList, some "x".toList⟩ ++ []))⟩ [] :=
    Tiling.blockAt_of_first? (by decide)
  have inner : Tiling.BlockAt r.tags [] ⟨"hidethis".toList, " for=staff".toList, some "x".toList⟩
      ([] ++ []) := Tiling.blockAt_of_first? (by decide)
  have resolved : r.Resolves {} 2 _ _ _ := Resolves.nested outer
    (by rw [resolveBlock, Traced.value_bind, Attributes.parse, Assignment.scan_nil]; decide)
    (.tile inner)
  simp only [List.nil_append, List.append_nil] at resolved
  have tags : Settings.readTags? "hide,hidethis".toList = some r.tags := by decide
  have plain : ∀ t ∈ r.tags, Text.cutAt? (Opening.closeOf t) "[hide]".toList = none := by decide
  exact r.render_alike_of_hidden {} (Settings.readTags?_eq_some_iff.mp tags).2.2 (by decide)
    resolved (by rw [hparse]; decide) (by rw [hparse]; decide)
    fun t ht => Text.cutAt?_eq_none_iff_not_isInfix.mp (plain t ht)

end Hidden

end Renderer

end ContentVisibility
