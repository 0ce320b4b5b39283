import ContentVisibility.Proofs.Shortcode.Tiling
import ContentVisibility.Proofs.Trace
import ContentVisibility.Renderer

/-! # Rendering along the tiling

Rendering keeps the texts of the one tiling of the document and puts the
rendered content in the place of each block (`render_tiling`).  The depth limit
has no part in this but to end the nesting, so a rendering with one level less
is the rendering with a smaller limit. -/
set_option autoImplicit false

namespace ContentVisibility

namespace Renderer

/-- What the selector makes of a block, before nested blocks are looked for. -/
def resolveBlock (r : Renderer) (v : Viewer) (b : Block) : Traced Text := do
  let attributes ← Attributes.parse b.attributes
  r.selector.resolve attributes b.body v

def renderBlock (r : Renderer) (v : Viewer) (levels : Nat) (b : Block) : Traced Text := do
  let resolved ← r.resolveBlock v b
  let expanded ← r.renderWithin v levels resolved
  r.selector.hooks.applyContent expanded

def withMaxDepth (r : Renderer) (depth : Nat) : Renderer := { r with maxDepth := depth }

theorem renderWithin_succ (r : Renderer) (v : Viewer) (levels : Nat) (document : Text) :
    r.renderWithin v (levels + 1) document = (do
      let rendered ← (Tiling.ofDocument r.tags document).tiles.mapM fun (before, b) => do
        let content ← r.renderBlock v levels b
        pure (before ++ content)
      pure (rendered.flatten ++ (Tiling.ofDocument r.tags document).tail)) := by
  simp only [renderWithin, renderBlock, resolveBlock, bind_assoc]

theorem value_renderWithin_succ (r : Renderer) (v : Viewer) (levels : Nat) (document : Text) :
    (r.renderWithin v (levels + 1) document).value =
      ((Tiling.ofDocument r.tags document).tiles.flatMap fun (before, b) =>
        before ++ (r.renderBlock v levels b).value) ++
          (Tiling.ofDocument r.tags document).tail := by
  rw [renderWithin_succ, Traced.value_bind, Traced.value_mapM, Traced.value_pure]
  rfl

/-- Renderings that agree on every block of the text agree on the text. -/
theorem value_renderWithin_succ_congr {r : Renderer} {v w : Viewer} {m n : Nat} {s : Text}
    (h : ∀ tile ∈ (Tiling.ofDocument r.tags s).tiles,
      (r.renderBlock v m tile.2).value = (r.renderBlock w n tile.2).value) :
    (r.renderWithin v (m + 1) s).value = (r.renderWithin w (n + 1) s).value := by
  have htiles : ((Tiling.ofDocument r.tags s).tiles.map fun (before, b) =>
      before ++ (r.renderBlock v m b).value) =
      (Tiling.ofDocument r.tags s).tiles.map fun (before, b) =>
        before ++ (r.renderBlock w n b).value := by
    apply List.map_congr_left
    intro tile htile
    simp only [h tile htile]
  rw [value_renderWithin_succ, value_renderWithin_succ, List.flatMap_def, List.flatMap_def, htiles]

theorem events_renderWithin_succ (r : Renderer) (v : Viewer) (levels : Nat) (document : Text) :
    (r.renderWithin v (levels + 1) document).events =
      (Tiling.ofDocument r.tags document).tiles.flatMap fun (_, b) =>
        (r.renderBlock v levels b).events := by
  rw [renderWithin_succ, Traced.events_bind, Traced.events_mapM, Traced.events_pure,
    List.append_nil]
  simp

theorem calls_renderWithin_succ (r : Renderer) (v : Viewer) (levels : Nat) (document : Text) :
    (r.renderWithin v (levels + 1) document).calls =
      (Tiling.ofDocument r.tags document).tiles.flatMap fun (_, b) =>
        (r.renderBlock v levels b).calls := by
  simp only [Traced.calls, events_renderWithin_succ, List.filterMap_flatMap]

theorem value_renderWithin_withMaxDepth (r : Renderer) (v : Viewer) (depth : Nat) :
    ∀ (levels : Nat) (s : Text),
      ((r.withMaxDepth depth).renderWithin v levels s).value =
        (r.renderWithin v levels s).value := by
  intro levels
  induction levels with
  | zero => intro s; rfl
  | succ levels ih =>
      intro s
      have hblock : ∀ b, ((r.withMaxDepth depth).renderBlock v levels b).value =
          (r.renderBlock v levels b).value := by
        intro b
        simp only [renderBlock, Traced.value_bind, ih]
        rfl
      rw [value_renderWithin_succ, value_renderWithin_succ]
      simp only [hblock]
      rfl

/-- The rendering of a block's resolved text: with one level less, or none. -/
def nested (r : Renderer) (v : Viewer) (s : Text) : Text :=
  match r.maxDepth with
  | 0 => s
  | depth + 1 => ((r.withMaxDepth depth).render s v).value

theorem value_renderWithin_maxDepth (r : Renderer) (v : Viewer) (s : Text) :
    (r.renderWithin v r.maxDepth s).value = r.nested v s := by
  cases hdepth : r.maxDepth with
  | zero => simp only [nested, hdepth]; rfl
  | succ depth =>
      simp only [nested, hdepth, render]
      rw [← value_renderWithin_withMaxDepth r v depth]
      rfl

def blockContent (r : Renderer) (v : Viewer) (b : Block) : Text :=
  let attributes := (Attributes.parse b.attributes).value
  let resolved := (r.selector.resolve attributes b.body v).value
  (r.selector.hooks.applyContent (r.nested v resolved)).value

/-- A document has exactly one tiling, and its rendering is the tiling with the
content of each block in the block's place. -/
theorem render_tiling (r : Renderer) (v : Viewer) (document : Text) :
    ∃ t : Tiling, Tiling.IsTilingOf r.tags document t ∧
      (∀ t' : Tiling, Tiling.IsTilingOf r.tags document t' → t' = t) ∧
      (r.render document v).value =
        (t.tiles.flatMap fun (before, b) => before ++ r.blockContent v b) ++ t.tail := by
  refine ⟨Tiling.ofDocument r.tags document, Tiling.isTilingOf_iff.mpr rfl,
    fun t' ht' => Tiling.isTilingOf_iff.mp ht', ?_⟩
  have hcontent : ∀ b, (r.renderBlock v r.maxDepth b).value = r.blockContent v b := by
    intro b
    simp only [renderBlock, Traced.value_bind, value_renderWithin_maxDepth]
    rfl
  rw [render, value_renderWithin_succ]
  simp only [hcontent]

end Renderer

end ContentVisibility
