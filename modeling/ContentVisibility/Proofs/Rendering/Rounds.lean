import ContentVisibility.Proofs.Rendering.Tiling
import ContentVisibility.Proofs.Shortcode.Rounds

/-! # Rendering round by round

The rendered text as the rounds write it, every part of the document taken out
between two places.  Nothing would be written where a slice fails; none does, at
any level, and what is written is the rendering (`renderSliced?_eq`).  The rounds
themselves are finitely many and stay within the document (`rounds_in_bounds`). -/
set_option autoImplicit false

namespace ContentVisibility

namespace Round

def block? (document : Text) (r : Round) : Option Block := do
  -- the closing tag is looked for in all that follows the opening tag
  let _ ← Text.slice? document r.stop (Text.utf8Size document)
  match r.close? with
  | none => pure ⟨r.opening.tag, r.opening.attributes, none⟩
  | some place =>
      let body ← Text.slice? document r.stop place
      pure ⟨r.opening.tag, r.opening.attributes, some body⟩

/-- What the rounds write, and behind the last one the rest of the document. -/
def write? (content : Block → Option Text) (document : Text) : Nat → List Round → Option Text
  | cursor, [] => Text.slice? document cursor (Text.utf8Size document)
  | cursor, r :: rounds => do
      let b ← r.block? document
      let before ← Text.slice? document cursor r.start
      let written ← content b
      let rest ← write? content document r.next rounds
      pure (before ++ written ++ rest)

theorem block?_ofBlock (front before after : Text) (b : Block) :
    (ofBlock (Text.utf8Size front) before b).block?
      (front ++ (before ++ (b.source ++ after))) = some b := by
  obtain ⟨back, hdocument⟩ := b.exists_append_source_eq front before after
  rw [block?, stop_ofBlock, close?_ofBlock, hdocument, Text.slice?_rest, Option.bind_eq_bind,
    Option.bind_some]
  obtain ⟨tag, attributes, body?⟩ := b
  cases body? with
  | none => rfl
  | some body =>
      simp only [Option.map_some, Block.body, Option.getD_some]
      rw [Text.utf8Size_append _ body, Text.slice?_append]
      rfl

theorem write?_ofTiles (f : Block → Text) (tail : Text) :
    ∀ (tiles : List (Text × Block)) (front : Text),
      write? (fun b => some (f b)) (front ++ Tiling.source ⟨tiles, tail⟩) (Text.utf8Size front)
        (ofTiles (Text.utf8Size front) tiles) = some (Tiling.fill f ⟨tiles, tail⟩) := by
  intro tiles
  induction tiles with
  | nil =>
      intro front
      exact Text.slice?_rest front _
  | cons tile back ih =>
      intro front
      obtain ⟨before, b⟩ := tile
      have hbefore : Text.slice? (front ++ (before ++ (b.source ++ Tiling.source ⟨back, tail⟩)))
          (Text.utf8Size front) (ofBlock (Text.utf8Size front) before b).start = some before :=
        Text.slice?_append front before _
      have hback := ih (front ++ (before ++ b.source))
      simp only [List.append_assoc] at hback
      have hfill : Tiling.fill f ⟨(before, b) :: back, tail⟩ =
          before ++ f b ++ Tiling.fill f ⟨back, tail⟩ := by
        simp only [Tiling.fill, List.flatMap_cons, List.append_assoc]
      rw [Tiling.source_cons, ofTiles, write?, block?_ofBlock, hbefore, next_ofBlock, hback, hfill]
      rfl

end Round

namespace Renderer

/-- The rendering with every part of the document taken out as a slice; nothing
where a slice fails, here or further down. -/
def renderSliced? (r : Renderer) (v : Viewer) : Nat → Text → Option Text
  | 0, document => some document
  | levels + 1, document =>
      Round.write? (fun b => do
          let expanded ← renderSliced? r v levels (r.resolveBlock v b).value
          pure (r.selector.hooks.applyContent expanded).value)
        document 0 (Round.ofDocument r.tags document)

theorem renderSliced?_eq (r : Renderer) (v : Viewer) :
    ∀ (levels : Nat) (document : Text),
      r.renderSliced? v levels document = some (r.renderWithin v levels document).value := by
  intro levels
  induction levels with
  | zero => intro document; rfl
  | succ levels ih =>
      intro document
      have hcontent : (fun b => do
          let expanded ← renderSliced? r v levels (r.resolveBlock v b).value
          pure (r.selector.hooks.applyContent expanded).value) =
          fun b => some (r.renderBlock v levels b).value := by
        funext b
        rw [ih]
        rfl
      have hwritten := Round.write?_ofTiles (fun b => (r.renderBlock v levels b).value)
        (Tiling.ofDocument r.tags document).tail (Tiling.ofDocument r.tags document).tiles []
      rw [List.nil_append, Round.source_tiles_tail] at hwritten
      rw [renderSliced?, hcontent, value_renderWithin_succ]
      exact hwritten

/-- Searching among the bytes of a document with a cursor finds its rounds and
stops.  Their ranges are slices within the document, each moves the cursor on,
and there are no more of them than opening brackets; so a rendering takes out no
part that is not there. -/
theorem rounds_in_bounds (r : Renderer) (v : Viewer) (levels : Nat) (document : Text) :
    let bytes := Text.bytes document
    let rounds := Round.ofDocument r.tags document
    (∀ run, Round.Follow r.tags bytes 0 run ↔ run <+: rounds) ∧
      Round.Ended r.tags bytes (Round.lastCursor 0 rounds) ∧
      (∀ round ∈ rounds, round.InBounds bytes) ∧
      Text.IsRange bytes (Round.lastCursor 0 rounds) bytes.length ∧
      rounds.length ≤ document.count '[' ∧
      r.renderSliced? v levels document = some (r.renderWithin v levels document).value := by
  intro bytes rounds
  refine ⟨?_, ?_, ?_, ?_, ?_, ?_⟩
  · intro run
    exact Round.follow_iff r.tags document
  · exact Round.ended_lastCursor r.tags document
  · intro round hround
    exact Round.inBounds_of_mem r.tags document hround
  · exact Round.isRange_lastCursor r.tags document
  · exact Round.length_ofDocument_le r.tags document
  · exact renderSliced?_eq r v levels document

end Renderer

end ContentVisibility
