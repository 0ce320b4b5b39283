import ContentVisibility.Proofs.Shortcode.Opening
import ContentVisibility.Shortcode.Tiling

/-! # The grammar of blocks and tilings

A block ends at the first closing tag of its own, or with its opening tag where
none follows.  In a tiling no tag fits within a text before, between or after
the blocks.  Every document has one tiling and no other, the one that
`Tiling.ofDocument` finds (`isTilingOf_iff`). -/
set_option autoImplicit false

namespace ContentVisibility

namespace Block

/-- How the block goes on, and what follows it, in the text behind its opening
tag. -/
def Ends (b : Block) (rest after : Text) : Prop :=
  match b.body? with
  | some body => Text.FirstCut (Opening.closeOf b.tag) rest body after
  | none => ¬ Opening.closeOf b.tag <:+: rest ∧ after = rest

/-- The block stands at the front of the text, `after` behind it. -/
def Stands (tags : List Text) (b : Block) (s after : Text) : Prop :=
  ∃ rest, b.opening.Stands tags s rest ∧ b.Ends rest after

/-- No tag fits at a place within `before` when `s` follows. -/
def Plain (tags : List Text) (before s : Text) : Prop :=
  ∀ u w, before = u ++ w → w ≠ [] → ∀ t ∈ tags, ¬ Opening.Fits t (w ++ s)

theorem ofOpening_eq_iff {o : Opening} {rest after : Text} {b : Block} :
    ofOpening o rest = (b, after) ↔ b.opening = o ∧ b.Ends rest after := by
  obtain ⟨tag, attributes, body?⟩ := b
  obtain ⟨t, a⟩ := o
  simp only [opening, Ends, Opening.mk.injEq, ofOpening]
  cases hcut : Text.cutAt? (Opening.closeOf t) rest with
  | none =>
      have hno := Text.cutAt?_eq_none_iff_not_isInfix.mp hcut
      simp only [Prod.mk.injEq, Block.mk.injEq]
      constructor
      · intro h
        obtain ⟨⟨rfl, rfl, rfl⟩, rfl⟩ := h
        exact ⟨⟨rfl, rfl⟩, hno, rfl⟩
      · intro h
        obtain ⟨⟨rfl, rfl⟩, hends⟩ := h
        cases body? with
        | none => exact ⟨⟨rfl, rfl, rfl⟩, hends.2.symm⟩
        | some body => exact absurd (Text.isInfix_iff.mpr ⟨_, _, hends.1⟩) hno
  | some parts =>
      obtain ⟨body, r⟩ := parts
      have hfirst := Text.cutAt?_eq_some_iff.mp hcut
      simp only [Prod.mk.injEq, Block.mk.injEq]
      constructor
      · intro h
        obtain ⟨⟨rfl, rfl, rfl⟩, rfl⟩ := h
        exact ⟨⟨rfl, rfl⟩, hfirst⟩
      · intro h
        obtain ⟨⟨rfl, rfl⟩, hends⟩ := h
        cases body? with
        | none => exact absurd (Text.isInfix_iff.mpr ⟨_, _, hfirst.1⟩) hends.1
        | some body' =>
            obtain ⟨rfl, rfl⟩ := hfirst.unique hends
            exact ⟨⟨rfl, rfl, rfl⟩, rfl⟩

theorem read?_eq_some_iff {tags : List Text} {s after : Text} {b : Block} :
    read? tags s = some (b, after) ↔ b.Stands tags s after := by
  simp only [read?, Option.map_eq_some_iff, Stands]
  constructor
  · intro h
    obtain ⟨⟨o, rest⟩, hread, heq⟩ := h
    obtain ⟨rfl, hends⟩ := ofOpening_eq_iff.mp heq
    exact ⟨rest, Opening.read?_eq_some_iff.mp hread, hends⟩
  · intro h
    obtain ⟨rest, hopening, hends⟩ := h
    exact ⟨(b.opening, rest), Opening.read?_eq_some_iff.mpr hopening,
      ofOpening_eq_iff.mpr ⟨rfl, hends⟩⟩

theorem read?_eq_none_iff {tags : List Text} {s : Text} :
    read? tags s = none ↔ ∀ t ∈ tags, ¬ Opening.Fits t s := by
  rw [← Opening.read?_eq_none_iff, read?, Option.map_eq_none_iff]

theorem Stands.eq_source_append {tags : List Text} {b : Block} {s after : Text}
    (h : b.Stands tags s after) : s = b.source ++ after :=
  eq_of_read? (read?_eq_some_iff.mpr h)

theorem open_mem_source (b : Block) : '[' ∈ b.source := by
  simp [source, Opening.source]

/-- A block ends in a bracket. -/
theorem exists_source_eq (b : Block) : ∃ front, b.source = front ++ [']'] := by
  obtain ⟨tag, attributes, body?⟩ := b
  cases body? with
  | none => exact ⟨'[' :: (tag ++ attributes), by simp [source, opening, Opening.source]⟩
  | some body =>
      refine ⟨Opening.source ⟨tag, attributes⟩ ++ (body ++ '[' :: '/' :: tag), ?_⟩
      simp [source, opening, Opening.closeOf]

theorem attributes_isInfix_source (b : Block) : b.attributes <:+: b.source := by
  have hopening : b.attributes <:+: b.opening.source :=
    ⟨'[' :: b.tag, [']'], by simp [opening, Opening.source]⟩
  exact hopening.trans (List.prefix_append _ _).isInfix

theorem body_isInfix_source (b : Block) : b.body <:+: b.source := by
  obtain ⟨tag, attributes, body?⟩ := b
  cases body? with
  | none => exact List.nil_infix
  | some body =>
      refine ⟨Opening.source ⟨tag, attributes⟩, Opening.closeOf tag, ?_⟩
      simp [source, opening, Block.body]

theorem closeOf_isInfix_source {b : Block} {body : Text} (h : b.body? = some body) :
    Opening.closeOf b.tag <:+: b.source := by
  refine ⟨b.opening.source ++ body, [], ?_⟩
  simp [source, h]

/-- A body holds no closing tag of its own block. -/
theorem Stands.closeOf_not_isInfix_body {tags : List Text} {b : Block} {s after : Text}
    (h : b.Stands tags s after) : ¬ Opening.closeOf b.tag <:+: b.body := by
  obtain ⟨rest, -, hends⟩ := h
  obtain ⟨tag, attributes, body?⟩ := b
  cases body? with
  | none =>
      intro hin
      have := hin.length_le
      simp [Opening.closeOf, Block.body] at this
  | some body => exact Text.FirstCut.not_isInfix hends (by simp [Opening.closeOf])

theorem Stands.tag_mem {tags : List Text} {b : Block} {s after : Text}
    (h : b.Stands tags s after) : b.tag ∈ tags := by
  obtain ⟨rest, ⟨-, -, earlier, later, htags, -⟩, -⟩ := h
  rw [htags]
  exact List.mem_append_right _ List.mem_cons_self

theorem Stands.fits {tags : List Text} {b : Block} {s after : Text}
    (h : b.Stands tags s after) : Opening.Fits b.tag s := by
  obtain ⟨rest, ⟨hs, hpart, -⟩, -⟩ := h
  exact ⟨b.attributes, rest, hpart, hs⟩

theorem plain_nil (tags : List Text) (s : Text) : Plain tags [] s := by
  intro u w h hne
  exact absurd (List.append_eq_nil_iff.mp h.symm).2 hne

theorem plain_cons_iff {tags : List Text} {c : Char} {before s : Text} :
    Plain tags (c :: before) s ↔
      (∀ t ∈ tags, ¬ Opening.Fits t (c :: (before ++ s))) ∧ Plain tags before s := by
  constructor
  · intro h
    refine ⟨h [] (c :: before) rfl (by simp), fun u w hw hne => ?_⟩
    exact h (c :: u) w (by rw [hw]; rfl) hne
  · intro h u w hw hne
    obtain ⟨hhead, htail⟩ := h
    cases u with
    | nil =>
        obtain rfl : c :: before = w := hw
        exact hhead
    | cons d u => exact htail u w (List.cons.inj hw).2 hne

/-- Where no bracket is opened no tag fits, whatever follows. -/
theorem plain_of_open_not_mem {tags : List Text} {before : Text} (h : '[' ∉ before) (s : Text) :
    Plain tags before s := by
  intro u w hw hne t _ hfits
  obtain ⟨rest, hrest⟩ := hfits.head_eq
  obtain ⟨c, w', rfl⟩ := List.exists_cons_of_ne_nil hne
  obtain rfl : c = '[' := (List.cons.inj hrest).1
  exact h (by rw [hw]; simp)

theorem first?_eq_none_iff {tags : List Text} {s : Text} :
    first? tags s = none ↔ Plain tags s [] := by
  induction s with
  | nil => simp [first?, plain_nil]
  | cons c rest ih =>
      rw [plain_cons_iff, List.append_nil, ← ih, ← read?_eq_none_iff]
      cases hread : read? tags (c :: rest) with
      | none => simp [first?, hread]
      | some parts => simp [first?, hread]

theorem first?_eq_some_iff {tags : List Text} {s before after : Text} {b : Block} :
    first? tags s = some (before, b, after) ↔
      ∃ s', s = before ++ s' ∧ Plain tags before s' ∧ b.Stands tags s' after := by
  induction s generalizing before with
  | nil =>
      constructor
      · intro h
        simp [first?] at h
      · intro h
        obtain ⟨s', hs, -, hstands⟩ := h
        obtain ⟨rfl, rfl⟩ := List.append_eq_nil_iff.mp hs.symm
        obtain ⟨r, hr⟩ := hstands.fits.head_eq
        simp at hr
  | cons c rest ih =>
      cases hread : read? tags (c :: rest) with
      | some parts =>
          obtain ⟨b', after'⟩ := parts
          have hb' := read?_eq_some_iff.mp hread
          simp only [first?, hread, Option.some.injEq, Prod.mk.injEq]
          constructor
          · intro h
            obtain ⟨rfl, rfl, rfl⟩ := h
            exact ⟨c :: rest, rfl, plain_nil tags _, hb'⟩
          · intro h
            obtain ⟨s', hs, hplain, hstands⟩ := h
            cases before with
            | nil =>
                obtain rfl : c :: rest = s' := hs
                rw [read?_eq_some_iff.mpr hstands] at hread
                simpa [eq_comm] using hread
            | cons d before =>
                -- the block at the front would start within the plain text
                obtain ⟨rfl, rfl⟩ := List.cons.inj hs
                exact absurd hb'.fits ((plain_cons_iff.mp hplain).1 _ hb'.tag_mem)
      | none =>
          have hnone := read?_eq_none_iff.mp hread
          simp only [first?, hread, Option.map_eq_some_iff]
          constructor
          · intro h
            obtain ⟨⟨p, q, r⟩, hf, heq⟩ := h
            simp only [Prod.mk.injEq] at heq
            obtain ⟨rfl, rfl, rfl⟩ := heq
            obtain ⟨s', rfl, hplain, hstands⟩ := ih.mp hf
            exact ⟨s', rfl, plain_cons_iff.mpr ⟨hnone, hplain⟩, hstands⟩
          · intro h
            obtain ⟨s', hs, hplain, hstands⟩ := h
            cases before with
            | nil =>
                obtain rfl : c :: rest = s' := hs
                exact absurd hstands.fits (hnone _ hstands.tag_mem)
            | cons d before =>
                obtain ⟨rfl, rfl⟩ := List.cons.inj hs
                exact ⟨(before, b, after),
                  ih.mpr ⟨s', rfl, (plain_cons_iff.mp hplain).2, hstands⟩, rfl⟩

end Block

/-! ## Tilings -/

namespace Tiling

/-- Each block is the first that stands in what the blocks before it leave, and
no tag fits in the tail. -/
def Tiles (tags : List Text) (tail : Text) : List (Text × Block) → Prop
  | [] => Block.Plain tags tail []
  | (before, b) :: back =>
      let rest := source ⟨back, tail⟩
      Block.Plain tags before (b.source ++ rest) ∧ b.Stands tags (b.source ++ rest) rest ∧
        Tiles tags tail back

def IsTilingOf (tags : List Text) (document : Text) (t : Tiling) : Prop :=
  t.source = document ∧ Tiles tags t.tail t.tiles

theorem source_cons (before : Text) (b : Block) (back : List (Text × Block)) (tail : Text) :
    source ⟨(before, b) :: back, tail⟩ = before ++ (b.source ++ source ⟨back, tail⟩) := by
  simp [source]

def fill (content : Block → Text) (t : Tiling) : Text :=
  (t.tiles.flatMap fun (before, b) => before ++ content b) ++ t.tail

theorem fill_source (t : Tiling) : t.fill Block.source = t.source := rfl

/-- Every block of a tiling stands where it is in the document. -/
theorem Tiles.stands {tags : List Text} {tail : Text} {before : Text} {b : Block} :
    ∀ {tiles : List (Text × Block)}, Tiles tags tail tiles → (before, b) ∈ tiles →
      ∃ after, b.Stands tags (b.source ++ after) after ∧
        b.source ++ after <:+ source ⟨tiles, tail⟩ := by
  intro tiles
  induction tiles with
  | nil => intro _ hmem; exact absurd hmem List.not_mem_nil
  | cons tile back ih =>
      intro h hmem
      obtain ⟨first, c⟩ := tile
      obtain ⟨-, hstands, hback⟩ := h
      rw [source_cons]
      rcases List.mem_cons.mp hmem with heq | hmem
      · obtain ⟨rfl, rfl⟩ := Prod.mk.inj heq
        exact ⟨_, hstands, List.suffix_append _ _⟩
      · obtain ⟨after, hb, hsuffix⟩ := ih hback hmem
        refine ⟨after, hb, hsuffix.trans ?_⟩
        rw [← List.append_assoc]
        exact List.suffix_append _ _

theorem ofDocument_source {tags : List Text} {tail : Text} :
    ∀ {tiles : List (Text × Block)}, Tiles tags tail tiles →
      ofDocument tags (source ⟨tiles, tail⟩) = ⟨tiles, tail⟩ := by
  intro tiles
  induction tiles with
  | nil =>
      intro h
      have hnone : Block.first? tags tail = none := Block.first?_eq_none_iff.mpr h
      simpa [source] using ofDocument_of_none hnone
  | cons tile back ih =>
      intro h
      obtain ⟨before, b⟩ := tile
      obtain ⟨hplain, hstands, hback⟩ := h
      have hfirst :=
        Block.first?_eq_some_iff.mpr ⟨_, source_cons before b back tail, hplain, hstands⟩
      rw [ofDocument_of_some hfirst, ih hback]
      rfl

theorem tiles_ofDocument (tags : List Text) (document : Text) :
    Tiles tags (ofDocument tags document).tail (ofDocument tags document).tiles := by
  induction hn : document.length using Nat.strongRecOn generalizing document with
  | ind n ih =>
      cases hf : Block.first? tags document with
      | none =>
          rw [ofDocument_of_none hf]
          exact Block.first?_eq_none_iff.mp hf
      | some parts =>
          obtain ⟨before, b, after⟩ := parts
          have hrest := ih after.length (hn ▸ Block.length_of_first? hf) after rfl
          obtain ⟨s', -, hplain, hstands⟩ := Block.first?_eq_some_iff.mp hf
          have hs' := hstands.eq_source_append
          have hsource :
              source ⟨(ofDocument tags after).tiles, (ofDocument tags after).tail⟩ = after :=
            source_ofDocument tags after
          rw [ofDocument_of_some hf]
          simp only [cons, Tiles, hsource, ← hs']
          exact ⟨hplain, hstands, hrest⟩

theorem isTilingOf_iff {tags : List Text} {document : Text} {t : Tiling} :
    IsTilingOf tags document t ↔ t = ofDocument tags document := by
  constructor
  · intro h
    obtain ⟨rfl, htiles⟩ := h
    exact (ofDocument_source htiles).symm
  · intro h
    subst h
    exact ⟨source_ofDocument tags document, tiles_ofDocument tags document⟩

section Member
variable {tags : List Text} {document before : Text} {b : Block}

theorem stands_of_mem (h : (before, b) ∈ (ofDocument tags document).tiles) :
    ∃ after, b.Stands tags (b.source ++ after) after ∧ b.source ++ after <:+ document := by
  obtain ⟨after, hstands, hsuffix⟩ := (tiles_ofDocument tags document).stands h
  exact ⟨after, hstands, source_ofDocument tags document ▸ hsuffix⟩

theorem source_isInfix_of_mem (h : (before, b) ∈ (ofDocument tags document).tiles) :
    b.source <:+: document := by
  obtain ⟨after, -, hsuffix⟩ := stands_of_mem h
  exact (List.infix_append' [] b.source after).trans hsuffix.isInfix

theorem open_mem_of_mem (h : (before, b) ∈ (ofDocument tags document).tiles) : '[' ∈ document :=
  (source_isInfix_of_mem h).subset b.open_mem_source

end Member

theorem ofDocument_of_open_not_mem {tags : List Text} {document : Text} (h : '[' ∉ document) :
    ofDocument tags document = ⟨[], document⟩ :=
  ofDocument_of_none (Block.first?_eq_none_iff.mpr (Block.plain_of_open_not_mem h []))

end Tiling

end ContentVisibility
