import ContentVisibility.Proofs.Shortcode.Tiling
import ContentVisibility.Proofs.Text.Bytes
import Mathlib.Order.Bounds.Basic

/-! # Blocks found round by round

The document as bytes with a cursor in it.  A round looks for the first opening
tag that stands at the cursor or behind it, then for the first closing tag
behind that, and moves the cursor behind what it found.  Places are counted in
bytes, and a search may hit any place where the bytes of what it looks for stand.
The rounds from the front of a document are its tiles and no others
(`follow_iff`), they end (`ended_lastCursor`), and every range of bytes that a
round takes is a slice of the document (`inBounds_of_mem`). -/
set_option autoImplicit false

namespace ContentVisibility

namespace Opening

def FitsAt (tag : Text) (bytes : List UInt8) (place : Nat) : Prop :=
  ∃ attributes, IsAttributePart attributes ∧ Text.OccursAt (source ⟨tag, attributes⟩) bytes place

/-- The opening tag stands at the place, and no earlier tag of the list fits
there. -/
def StandsAt (tags : List Text) (o : Opening) (bytes : List UInt8) (place : Nat) : Prop :=
  Text.OccursAt o.source bytes place ∧ IsAttributePart o.attributes ∧
    ∃ earlier later, tags = earlier ++ o.tag :: later ∧ ∀ t ∈ earlier, ¬ FitsAt t bytes place

theorem fitsAt_append {tag front back : Text} :
    FitsAt tag (Text.bytes (front ++ back)) (Text.utf8Size front) ↔ Fits tag back := by
  simp only [FitsAt, Fits, Text.occursAt_append]
  constructor
  · intro h
    obtain ⟨attributes, hpart, after, hafter⟩ := h
    exact ⟨attributes, after, hpart, hafter.symm⟩
  · intro h
    obtain ⟨attributes, after, hpart, hafter⟩ := h
    exact ⟨attributes, hpart, after, hafter.symm⟩

theorem fitsAt_iff {tag document : Text} {place : Nat} :
    FitsAt tag (Text.bytes document) place ↔
      ∃ front back, document = front ++ back ∧ Text.utf8Size front = place ∧ Fits tag back := by
  constructor
  · intro h
    have hboundary : Text.IsBoundary (Text.bytes document) place := by
      obtain ⟨attributes, -, hoccurs⟩ := h
      exact hoccurs.isBoundary (by simp [source])
    obtain ⟨front, back, rfl, rfl⟩ := Text.isBoundary_iff.mp hboundary
    exact ⟨front, back, rfl, rfl, fitsAt_append.mp h⟩
  · intro h
    obtain ⟨front, back, rfl, rfl, hfits⟩ := h
    exact fitsAt_append.mpr hfits

theorem standsAt_append {tags : List Text} {o : Opening} {front back : Text} :
    o.StandsAt tags (Text.bytes (front ++ back)) (Text.utf8Size front) ↔
      ∃ after, o.Stands tags back after := by
  simp only [StandsAt, Stands, Text.occursAt_append, fitsAt_append]
  constructor
  · intro h
    obtain ⟨⟨after, hafter⟩, hrest⟩ := h
    exact ⟨after, hafter.symm, hrest⟩
  · intro h
    obtain ⟨after, hafter, hrest⟩ := h
    exact ⟨⟨after, hafter.symm⟩, hrest⟩

theorem Stands.unique {tags : List Text} {o₁ o₂ : Opening} {s after₁ after₂ : Text}
    (h₁ : o₁.Stands tags s after₁) (h₂ : o₂.Stands tags s after₂) : o₁ = o₂ := by
  have hread := (read?_eq_some_iff.mpr h₁).symm.trans (read?_eq_some_iff.mpr h₂)
  exact (Prod.mk.inj (Option.some.inj hread)).1

end Opening

/-- The body stands behind the opening tag. -/
theorem Block.exists_append_source_eq (front before after : Text) (b : Block) :
    ∃ back, front ++ (before ++ (b.source ++ after)) =
      front ++ before ++ b.opening.source ++ (b.body ++ back) := by
  obtain ⟨tag, attributes, body?⟩ := b
  cases body? with
  | none => exact ⟨after, by simp [source, body, opening]⟩
  | some body => exact ⟨Opening.closeOf tag ++ after, by simp [source, Block.body, opening]⟩

theorem Tiling.Tiles.plain_tail {tags : List Text} {tail : Text} :
    ∀ {tiles : List (Text × Block)}, Tiles tags tail tiles → Block.Plain tags tail [] := by
  intro tiles
  induction tiles with
  | nil => intro h; exact h
  | cons tile back ih =>
      intro h
      obtain ⟨-, -, hback⟩ := h
      exact ih hback

namespace Text

section First
variable {document front before rest : Text} {T : Text → Prop} {found : Nat → Prop}

/-- Where nothing earlier behind the front meets the condition, the first place
is the end of the text before. -/
theorem isLeast_of_first
    (hfound : ∀ i, found i ↔ ∃ f back, document = f ++ back ∧ utf8Size f = i ∧ T back)
    (hdocument : document = front ++ (before ++ rest)) (hrest : T rest)
    (hbefore : ∀ u w, before = u ++ w → w ≠ [] → ¬ T (w ++ rest)) :
    IsLeast {i | utf8Size front ≤ i ∧ found i} (utf8Size (front ++ before)) := by
  constructor
  · refine ⟨?_, (hfound _).mpr ⟨front ++ before, rest, ?_, rfl, hrest⟩⟩
    · rw [utf8Size_append]
      exact Nat.le_add_right _ _
    · rw [hdocument, List.append_assoc]
  · rintro i ⟨hfront, hi⟩
    obtain ⟨f, back, hf, rfl, hback⟩ := (hfound i).mp hi
    by_contra hlt
    have hlt := Nat.lt_of_not_le hlt
    -- the place would fall into the text before
    obtain ⟨u, rfl⟩ := isPrefix_of_utf8Size_le (hdocument.symm.trans hf) hfront
    rw [hdocument, List.append_assoc] at hf
    have hu : u ++ back = before ++ rest := (List.append_cancel_left hf).symm
    simp only [utf8Size_append] at hlt
    obtain ⟨w, rfl⟩ := isPrefix_of_utf8Size_le hu (by omega)
    rw [List.append_assoc] at hu
    have hw : w ≠ [] := by
      rintro rfl
      simp at hlt
    exact hbefore u w rfl hw (List.append_cancel_left hu ▸ hback)

theorem not_found_of_none
    (hfound : ∀ i, found i ↔ ∃ f back, document = f ++ back ∧ utf8Size f = i ∧ T back)
    (hdocument : document = front ++ rest) (hrest : ∀ u w, rest = u ++ w → ¬ T w) :
    ∀ i, utf8Size front ≤ i → ¬ found i := by
  intro i hfront hi
  obtain ⟨f, back, hf, rfl, hback⟩ := (hfound i).mp hi
  obtain ⟨u, rfl⟩ := isPrefix_of_utf8Size_le (hdocument.symm.trans hf) hfront
  rw [hdocument, List.append_assoc] at hf
  exact hrest u back (List.append_cancel_left hf) hback

end First

section Pattern
variable {pattern front rest before after : Text}

theorem isLeast_of_firstCut (hne : pattern ≠ []) (h : FirstCut pattern rest before after) :
    IsLeast {i | utf8Size front ≤ i ∧ OccursAt pattern (bytes (front ++ rest)) i}
      (utf8Size (front ++ before)) := by
  obtain ⟨hrest, hfirst⟩ := h
  have hdocument : front ++ rest = front ++ (before ++ (pattern ++ after)) := by rw [hrest]
  apply isLeast_of_first (fun i => occursAt_iff hne) hdocument (List.prefix_append _ _)
  rintro u w rfl hw ⟨more, hmore⟩
  have hlen := hfirst u more (by rw [hrest, hmore, List.append_assoc])
  have hpos := List.length_pos_iff.mpr hw
  rw [List.length_append] at hlen
  omega

theorem not_occursAt_of_not_isInfix (hne : pattern ≠ []) (h : ¬ pattern <:+: rest) :
    ∀ i, utf8Size front ≤ i → ¬ OccursAt pattern (bytes (front ++ rest)) i := by
  apply not_found_of_none (fun i => occursAt_iff hne) rfl
  rintro u w rfl ⟨more, rfl⟩
  exact h (List.infix_append' u pattern more)

end Pattern

end Text

/-! ## Rounds -/

structure Round where
  cursor : Nat
  start : Nat
  opening : Opening
  /-- Where the closing tag begins; absent when the block is never closed. -/
  close? : Option Nat
  deriving DecidableEq

namespace Round

def stop (r : Round) : Nat := r.start + Text.utf8Size r.opening.source

def bodyEnd (r : Round) : Nat := r.close?.getD r.stop

def next (r : Round) : Nat :=
  match r.close? with
  | some place => place + Text.utf8Size (Opening.closeOf r.opening.tag)
  | none => r.stop

/-- What the round finds is the first there is to find, counted from the
cursor. -/
structure Happens (tags : List Text) (bytes : List UInt8) (r : Round) : Prop where
  first : IsLeast {i | r.cursor ≤ i ∧ ∃ t ∈ tags, Opening.FitsAt t bytes i} r.start
  stands : r.opening.StandsAt tags bytes r.start
  closes : match r.close? with
    | some place =>
        IsLeast {i | r.stop ≤ i ∧ Text.OccursAt (Opening.closeOf r.opening.tag) bytes i} place
    | none => ∀ i, r.stop ≤ i → ¬ Text.OccursAt (Opening.closeOf r.opening.tag) bytes i

/-- Rounds that follow one another, the first from the given cursor. -/
def Follow (tags : List Text) (bytes : List UInt8) : Nat → List Round → Prop
  | _, [] => True
  | cursor, r :: rounds =>
      r.cursor = cursor ∧ r.Happens tags bytes ∧ Follow tags bytes r.next rounds

/-- The cursor behind the last round. -/
def lastCursor : Nat → List Round → Nat
  | cursor, [] => cursor
  | _, r :: rounds => lastCursor r.next rounds

def Ended (tags : List Text) (bytes : List UInt8) (cursor : Nat) : Prop :=
  ∀ i, cursor ≤ i → ¬ ∃ t ∈ tags, Opening.FitsAt t bytes i

/-- Every range that the round takes is a slice, and the cursor moves on. -/
structure InBounds (bytes : List UInt8) (r : Round) : Prop where
  before : Text.IsRange bytes r.cursor r.start
  behind : Text.IsRange bytes r.stop bytes.length
  body : Text.IsRange bytes r.stop r.bodyEnd
  rest : Text.IsRange bytes r.next bytes.length
  advances : r.cursor < r.next

def ofBlock (cursor : Nat) (before : Text) (b : Block) : Round where
  cursor := cursor
  start := cursor + Text.utf8Size before
  opening := b.opening
  close? := b.body?.map fun body =>
    cursor + Text.utf8Size before + Text.utf8Size b.opening.source + Text.utf8Size body

def ofTiles : Nat → List (Text × Block) → List Round
  | _, [] => []
  | cursor, (before, b) :: tiles =>
      ofBlock cursor before b :: ofTiles (ofBlock cursor before b).next tiles

def ofDocument (tags : List Text) (document : Text) : List Round :=
  ofTiles 0 (Tiling.ofDocument tags document).tiles

theorem stop_ofBlock (front before : Text) (b : Block) :
    (ofBlock (Text.utf8Size front) before b).stop =
      Text.utf8Size (front ++ before ++ b.opening.source) := by
  rw [Text.utf8Size_append, Text.utf8Size_append]
  rfl

theorem close?_ofBlock (front before : Text) (b : Block) :
    (ofBlock (Text.utf8Size front) before b).close? =
      b.body?.map fun body => Text.utf8Size (front ++ before ++ b.opening.source ++ body) := by
  simp only [ofBlock, Text.utf8Size_append]

/-- The next round starts behind the block. -/
theorem next_ofBlock (front before : Text) (b : Block) :
    (ofBlock (Text.utf8Size front) before b).next =
      Text.utf8Size (front ++ (before ++ b.source)) := by
  obtain ⟨tag, attributes, body?⟩ := b
  simp only [next, ofBlock, Block.source, Text.utf8Size_append]
  cases body? with
  | none =>
      simp only [Option.map_none, stop, Text.utf8Size_nil]
      omega
  | some body =>
      simp only [Option.map_some, Block.opening, Text.utf8Size_append]
      omega

theorem bodyEnd_ofBlock (cursor : Nat) (before : Text) (b : Block) :
    (ofBlock cursor before b).bodyEnd =
      (ofBlock cursor before b).stop + Text.utf8Size b.body := by
  obtain ⟨tag, attributes, body?⟩ := b
  cases body? <;> rfl

section Step
variable {tags : List Text} {front before rest after : Text} {b : Block} {r r₁ r₂ : Round}

theorem exists_fitsAt_iff {document : Text} (i : Nat) :
    (∃ t ∈ tags, Opening.FitsAt t (Text.bytes document) i) ↔
      ∃ f back, document = f ++ back ∧ Text.utf8Size f = i ∧ ∃ t ∈ tags, Opening.Fits t back := by
  simp only [Opening.fitsAt_iff]
  constructor
  · intro h
    obtain ⟨t, ht, f, back, hdocument, hf, hfits⟩ := h
    exact ⟨f, back, hdocument, hf, t, ht, hfits⟩
  · intro h
    obtain ⟨f, back, hdocument, hf, t, ht, hfits⟩ := h
    exact ⟨t, ht, f, back, hdocument, hf, hfits⟩

theorem ended_of_plain (h : Block.Plain tags rest []) :
    Ended tags (Text.bytes (front ++ rest)) (Text.utf8Size front) := by
  apply Text.not_found_of_none exists_fitsAt_iff rfl
  rintro u w hw ⟨t, ht, hfits⟩
  obtain ⟨s, rfl⟩ := hfits.head_eq
  have hno := h u _ hw (List.cons_ne_nil _ _) t ht
  rw [List.append_nil] at hno
  exact hno hfits

theorem happens_ofBlock (hplain : Block.Plain tags before rest)
    (hstands : b.Stands tags rest after) :
    (ofBlock (Text.utf8Size front) before b).Happens tags
      (Text.bytes (front ++ (before ++ rest))) := by
  have hstart : (ofBlock (Text.utf8Size front) before b).start = Text.utf8Size (front ++ before) :=
    (Text.utf8Size_append front before).symm
  have hfits := hstands.fits
  have hmem := hstands.tag_mem
  obtain ⟨s, hopening, hends⟩ := hstands
  have hdocument : front ++ (before ++ rest) = front ++ before ++ b.opening.source ++ s := by
    rw [hopening.1]
    simp only [List.append_assoc]
  have hclose : Opening.closeOf b.tag ≠ [] := List.cons_ne_nil _ _
  refine ⟨?first, ?stands, ?closes⟩
  case first =>
    rw [hstart]
    apply Text.isLeast_of_first exists_fitsAt_iff rfl ⟨b.tag, hmem, hfits⟩
    rintro u w hw hne ⟨t, ht, hfits⟩
    exact hplain u w hw hne t ht hfits
  case stands =>
    rw [hstart, ← List.append_assoc]
    exact Opening.standsAt_append.mpr ⟨s, hopening⟩
  case closes =>
    rw [close?_ofBlock, stop_ofBlock, hdocument]
    obtain ⟨tag, attributes, body?⟩ := b
    cases body? with
    | none => exact Text.not_occursAt_of_not_isInfix hclose hends.1
    | some body => exact Text.isLeast_of_firstCut hclose hends

/-- From one cursor there is at most one round. -/
theorem Happens.unique {document : Text} (h₁ : r₁.Happens tags (Text.bytes document))
    (h₂ : r₂.Happens tags (Text.bytes document)) (hcursor : r₁.cursor = r₂.cursor) : r₁ = r₂ := by
  obtain ⟨cursor, start, o, close?⟩ := r₁
  obtain ⟨cursor', start', o', close?'⟩ := r₂
  obtain rfl : cursor = cursor' := hcursor
  obtain rfl : start = start' := h₁.first.unique h₂.first
  obtain ⟨front, back, rfl, hfront, -⟩ := (exists_fitsAt_iff start).mp h₁.first.1.2
  obtain rfl : Text.utf8Size front = start := hfront
  obtain ⟨after₁, hstands₁⟩ := Opening.standsAt_append.mp h₁.stands
  obtain ⟨after₂, hstands₂⟩ := Opening.standsAt_append.mp h₂.stands
  obtain rfl : o = o' := hstands₁.unique hstands₂
  have hcloses₁ := h₁.closes
  have hcloses₂ := h₂.closes
  cases close? with
  | none =>
      cases close?' with
      | none => rfl
      | some place => exact absurd hcloses₂.1.2 (hcloses₁ place hcloses₂.1.1)
  | some place =>
      cases close?' with
      | none => exact absurd hcloses₁.1.2 (hcloses₂ place hcloses₁.1.1)
      | some place' =>
          obtain rfl : place = place' := hcloses₁.unique hcloses₂
          rfl

theorem inBounds_ofBlock :
    (ofBlock (Text.utf8Size front) before b).InBounds
      (Text.bytes (front ++ (before ++ (b.source ++ after)))) := by
  obtain ⟨back, hopening⟩ := b.exists_append_source_eq front before after
  have hblock : front ++ (before ++ (b.source ++ after)) =
      front ++ (before ++ b.source) ++ after := by
    simp only [List.append_assoc]
  refine ⟨Text.isRange_append front before _, ?behind, ?body, ?rest, ?advances⟩
  case behind =>
    rw [stop_ofBlock, hopening]
    exact Text.isRange_rest _ _
  case body =>
    rw [bodyEnd_ofBlock, stop_ofBlock, hopening]
    exact Text.isRange_append _ b.body _
  case rest =>
    rw [next_ofBlock, hblock]
    exact Text.isRange_rest _ _
  case advances =>
    have hpos : Text.utf8Size b.source ≠ 0 := by
      intro h
      have hlen := b.source_length_pos
      rw [Text.utf8Size_eq_zero_iff.mp h] at hlen
      simp at hlen
    change Text.utf8Size front < _
    rw [next_ofBlock, Text.utf8Size_append, Text.utf8Size_append]
    omega

theorem happens_iff :
    r.cursor = Text.utf8Size front ∧ r.Happens tags (Text.bytes (front ++ rest)) ↔
      ∃ before b after, Block.first? tags rest = some (before, b, after) ∧
        r = ofBlock (Text.utf8Size front) before b := by
  constructor
  · intro h
    obtain ⟨hcursor, hhappens⟩ := h
    cases hf : Block.first? tags rest with
    | none =>
        have hended : Ended tags (Text.bytes (front ++ rest)) (Text.utf8Size front) :=
          ended_of_plain (Block.first?_eq_none_iff.mp hf)
        obtain ⟨hle, hfits⟩ := hhappens.first.1
        exact absurd hfits (hended r.start (hcursor ▸ hle))
    | some parts =>
        obtain ⟨before, b, after⟩ := parts
        obtain ⟨s, rfl, hplain, hstands⟩ := Block.first?_eq_some_iff.mp hf
        exact ⟨before, b, after, rfl, hhappens.unique (happens_ofBlock hplain hstands) hcursor⟩
  · intro h
    obtain ⟨before, b, after, hf, rfl⟩ := h
    obtain ⟨s, rfl, hplain, hstands⟩ := Block.first?_eq_some_iff.mp hf
    exact ⟨rfl, happens_ofBlock hplain hstands⟩

end Step

/-! ## All rounds -/

section Run
variable {tags : List Text}

/-- The run of the loop: its rounds from the front are the tiles, one after the
other. -/
theorem follow_append_iff :
    ∀ (run : List Round) (front rest : Text),
      Follow tags (Text.bytes (front ++ rest)) (Text.utf8Size front) run ↔
        run <+: ofTiles (Text.utf8Size front) (Tiling.ofDocument tags rest).tiles := by
  intro run
  induction run with
  | nil =>
      intro front rest
      exact iff_of_true trivial List.nil_prefix
  | cons r run ih =>
      intro front rest
      rw [Follow, ← and_assoc, happens_iff]
      cases hf : Block.first? tags rest with
      | none =>
          rw [Tiling.ofDocument_of_none hf]
          simp [ofTiles]
      | some parts =>
          obtain ⟨before, b, after⟩ := parts
          have hdocument : front ++ rest = front ++ (before ++ b.source) ++ after := by
            rw [Block.eq_of_first? hf]
            simp only [List.append_assoc]
          have hround : (∃ before' b' after', some (before, b, after) = some (before', b', after') ∧
              r = ofBlock (Text.utf8Size front) before' b') ↔
              r = ofBlock (Text.utf8Size front) before b := by
            simp
          rw [Tiling.ofDocument_of_some hf, Tiling.cons, ofTiles, List.cons_prefix_cons, hround,
            next_ofBlock, ← ih _ _, ← hdocument]
          apply and_congr_right
          intro hr
          rw [hr, next_ofBlock]

theorem inBounds_ofTiles (tail : Text) {r : Round} :
    ∀ (tiles : List (Text × Block)) (front : Text), r ∈ ofTiles (Text.utf8Size front) tiles →
      r.InBounds (Text.bytes (front ++ Tiling.source ⟨tiles, tail⟩)) := by
  intro tiles
  induction tiles with
  | nil =>
      intro front h
      exact absurd h List.not_mem_nil
  | cons tile back ih =>
      intro front h
      obtain ⟨before, b⟩ := tile
      rw [Tiling.source_cons]
      rcases List.mem_cons.mp h with rfl | h
      · exact inBounds_ofBlock
      · rw [next_ofBlock] at h
        have hback := ih _ h
        simp only [List.append_assoc] at hback
        exact hback

theorem lastCursor_ofTiles :
    ∀ (tiles : List (Text × Block)) (front : Text),
      lastCursor (Text.utf8Size front) (ofTiles (Text.utf8Size front) tiles) =
        Text.utf8Size (front ++ tiles.flatMap fun (before, b) => before ++ b.source) := by
  intro tiles
  induction tiles with
  | nil =>
      intro front
      rw [List.flatMap_nil, List.append_nil]
      rfl
  | cons tile back ih =>
      intro front
      obtain ⟨before, b⟩ := tile
      rw [ofTiles, lastCursor, next_ofBlock, ih, List.flatMap_cons, List.append_assoc]

theorem length_ofTiles_le (tail : Text) :
    ∀ (tiles : List (Text × Block)) (cursor : Nat),
      (ofTiles cursor tiles).length ≤ (Tiling.source ⟨tiles, tail⟩).count '[' := by
  intro tiles
  induction tiles with
  | nil =>
      intro cursor
      exact Nat.zero_le _
  | cons tile back ih =>
      intro cursor
      obtain ⟨before, b⟩ := tile
      have hblock : 0 < b.source.count '[' := List.count_pos_iff.mpr b.open_mem_source
      have hback := ih (ofBlock cursor before b).next
      simp only [ofTiles, List.length_cons, Tiling.source_cons, List.count_append]
      omega

end Run

section Document
variable (tags : List Text) (document : Text)

theorem follow_iff {run : List Round} :
    Follow tags (Text.bytes document) 0 run ↔ run <+: ofDocument tags document :=
  follow_append_iff run [] document

example : ofDocument ["é".toList] "ü[é]ß[/é]".toList = [⟨0, 2, ⟨"é".toList, []⟩, some 8⟩] := by
  cbv

theorem source_tiles_tail :
    Tiling.source ⟨(Tiling.ofDocument tags document).tiles,
      (Tiling.ofDocument tags document).tail⟩ = document :=
  Tiling.source_ofDocument tags document

theorem inBounds_of_mem {r : Round} (h : r ∈ ofDocument tags document) :
    r.InBounds (Text.bytes document) := by
  have hbounds := inBounds_ofTiles (Tiling.ofDocument tags document).tail _ [] h
  rw [List.nil_append, source_tiles_tail] at hbounds
  exact hbounds

theorem length_ofDocument_le : (ofDocument tags document).length ≤ document.count '[' := by
  have h := length_ofTiles_le (Tiling.ofDocument tags document).tail
    (Tiling.ofDocument tags document).tiles 0
  rw [source_tiles_tail] at h
  exact h

/-- The last cursor is where the tail of the tiling starts. -/
theorem exists_lastCursor_eq : ∃ front,
    document = front ++ (Tiling.ofDocument tags document).tail ∧
      lastCursor 0 (ofDocument tags document) = Text.utf8Size front := by
  refine ⟨_, (Tiling.source_ofDocument tags document).symm, ?_⟩
  exact lastCursor_ofTiles (Tiling.ofDocument tags document).tiles []

theorem ended_lastCursor :
    Ended tags (Text.bytes document) (lastCursor 0 (ofDocument tags document)) := by
  obtain ⟨front, hdocument, hcursor⟩ := exists_lastCursor_eq tags document
  have hended : Ended tags (Text.bytes (front ++ (Tiling.ofDocument tags document).tail))
      (Text.utf8Size front) := ended_of_plain (Tiling.tiles_ofDocument tags document).plain_tail
  rw [← hdocument, ← hcursor] at hended
  exact hended

theorem isRange_lastCursor :
    Text.IsRange (Text.bytes document) (lastCursor 0 (ofDocument tags document))
      (Text.bytes document).length := by
  obtain ⟨front, hdocument, hcursor⟩ := exists_lastCursor_eq tags document
  have hrange := Text.isRange_rest front (Tiling.ofDocument tags document).tail
  rw [← hdocument, ← hcursor] at hrange
  exact hrange

end Document

end Round

end ContentVisibility
