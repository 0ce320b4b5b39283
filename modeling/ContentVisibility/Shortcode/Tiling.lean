import ContentVisibility.Shortcode.Opening

/-! # The blocks of a document

A block starts at an opening tag and runs through the first closing tag of the
same tag; without one it is the opening tag alone.  A document is tiled from
left to right: the text before the first block, that block, and the tiling of
what follows.  The tiles put together are the document. -/
set_option autoImplicit false

namespace ContentVisibility

structure Block where
  tag : Text
  attributes : Text
  /-- Absent when the block is never closed. -/
  body? : Option Text
  deriving DecidableEq

namespace Block

def opening (b : Block) : Opening := ⟨b.tag, b.attributes⟩

def body (b : Block) : Text := b.body?.getD []

def source (b : Block) : Text :=
  b.opening.source ++
    match b.body? with
    | some body => body ++ Opening.closeOf b.tag
    | none => []

/-- The block of an opening tag that the given text follows, and what follows
the block. -/
def ofOpening (o : Opening) (after : Text) : Block × Text :=
  match Text.cutAt? (Opening.closeOf o.tag) after with
  | some (body, rest) => (⟨o.tag, o.attributes, some body⟩, rest)
  | none => (⟨o.tag, o.attributes, none⟩, after)

/-- The block that the text starts with, and what follows it. -/
def read? (tags : List Text) (s : Text) : Option (Block × Text) :=
  (Opening.read? tags s).map fun (o, after) => ofOpening o after

/-- The text before the first block, the block, and what follows it. -/
def first? (tags : List Text) : Text → Option (Text × Block × Text)
  | [] => none
  | c :: rest =>
      match read? tags (c :: rest) with
      | some (b, after) => some ([], b, after)
      | none => (first? tags rest).map fun (before, b, after) => (c :: before, b, after)

theorem source_ofOpening (o : Opening) (after : Text) :
    (ofOpening o after).1.source ++ (ofOpening o after).2 = o.source ++ after := by
  simp only [ofOpening]
  split
  · rename_i body rest h
    rw [Text.eq_of_cutAt? h]
    simp [source, opening]
  · simp [source, opening]

theorem eq_of_read? {tags : List Text} {s after : Text} {b : Block}
    (h : read? tags s = some (b, after)) : s = b.source ++ after := by
  obtain ⟨⟨o, r⟩, ho, heq⟩ := Option.map_eq_some_iff.mp h
  have hsource := source_ofOpening o r
  have hb : ofOpening o r = (b, after) := heq
  rw [hb] at hsource
  rw [(Opening.eq_of_read? ho).2, ← hsource]

theorem eq_of_first? {tags : List Text} :
    ∀ {s before after : Text} {b : Block}, first? tags s = some (before, b, after) →
      s = before ++ (b.source ++ after) := by
  intro s
  induction s with
  | nil => intro before after b h; simp [first?] at h
  | cons c rest ih =>
      intro before after b h
      simp only [first?] at h
      split at h
      · rename_i q r hr
        simp only [Option.some.injEq, Prod.mk.injEq] at h
        obtain ⟨rfl, rfl, rfl⟩ := h
        exact eq_of_read? hr
      · obtain ⟨⟨p, q, r⟩, hf, heq⟩ := Option.map_eq_some_iff.mp h
        simp only [Prod.mk.injEq] at heq
        obtain ⟨rfl, rfl, rfl⟩ := heq
        rw [ih hf]
        rfl

theorem source_length_pos (b : Block) : 0 < b.source.length := by
  simp [source, Opening.source]

theorem length_of_first? {tags : List Text} {s before after : Text} {b : Block}
    (h : first? tags s = some (before, b, after)) : after.length < s.length := by
  have hlen := congrArg List.length (eq_of_first? h)
  have hpos := b.source_length_pos
  simp only [List.length_append] at hlen
  omega

end Block

/-! ## Tilings -/

structure Tiling where
  /-- Every block with the text before it. -/
  tiles : List (Text × Block)
  /-- The text after the last block. -/
  tail : Text
  deriving DecidableEq

namespace Tiling

def source (t : Tiling) : Text := (t.tiles.flatMap fun (before, b) => before ++ b.source) ++ t.tail

def cons (before : Text) (b : Block) (t : Tiling) : Tiling := ⟨(before, b) :: t.tiles, t.tail⟩

def ofDocument (tags : List Text) (s : Text) : Tiling :=
  match _found : Block.first? tags s with
  | none => ⟨[], s⟩
  | some (before, b, after) => cons before b (ofDocument tags after)
termination_by s.length
decreasing_by exact Block.length_of_first? _found

theorem ofDocument_of_none {tags : List Text} {s : Text} (h : Block.first? tags s = none) :
    ofDocument tags s = ⟨[], s⟩ := by
  rw [ofDocument]
  split
  · rfl
  · rename_i hs
    rw [h] at hs
    simp at hs

theorem ofDocument_of_some {tags : List Text} {s before after : Text} {b : Block}
    (h : Block.first? tags s = some (before, b, after)) :
    ofDocument tags s = cons before b (ofDocument tags after) := by
  rw [ofDocument]
  split
  · rename_i hs
    rw [h] at hs
    simp at hs
  · rename_i p q r hs
    rw [h] at hs
    simp only [Option.some.injEq, Prod.mk.injEq] at hs
    obtain ⟨rfl, rfl, rfl⟩ := hs
    rfl

/-- Nothing of the document is lost, repeated or moved. -/
theorem source_ofDocument (tags : List Text) (s : Text) : (ofDocument tags s).source = s := by
  induction hn : s.length using Nat.strongRecOn generalizing s with
  | ind n ih =>
      cases hf : Block.first? tags s with
      | none => simp [ofDocument_of_none hf, source]
      | some parts =>
          obtain ⟨before, b, after⟩ := parts
          have hlt := Block.length_of_first? hf
          have hrest := ih after.length (hn ▸ hlt) after rfl
          have heq := Block.eq_of_first? hf
          simp only [source] at hrest
          rw [ofDocument_of_some hf]
          simp only [source, cons, List.flatMap_cons, List.append_assoc]
          rw [hrest]
          exact heq.symm

end Tiling

end ContentVisibility
