import ContentVisibility.Proofs.Shortcode.Replacement

/-! # Tilings of documents put together

A closed block ends in a bracket of its own and stays what it is whatever follows.
A text without an opening bracket starts no block, whatever follows either.  So
where all blocks of a document are closed and no bracket is opened behind them, the
tiling of a longer document goes on with the tiling of what was added
(`Tiling.ofDocument_append`). -/
set_option autoImplicit false

namespace ContentVisibility

theorem Block.Plain.append_left {tags : List Text} {first before s : Text}
    (hfirst : Plain tags first (before ++ s)) (h : Plain tags before s) :
    Plain tags (first ++ before) s := by
  induction first with
  | nil => exact h
  | cons c first ih =>
      obtain ⟨hhead, htail⟩ := plain_cons_iff.mp hfirst
      rw [← List.append_assoc] at hhead
      exact plain_cons_iff.mpr ⟨hhead, ih htail⟩

namespace Tiling

def prepend (first : Text) : Tiling → Tiling
  | ⟨[], tail⟩ => ⟨[], first ++ tail⟩
  | ⟨(before, b) :: back, tail⟩ => ⟨(first ++ before, b) :: back, tail⟩

/-- All blocks are closed, and no bracket is opened behind the last of them. -/
def Complete (t : Tiling) : Prop :=
  (∀ tile ∈ t.tiles, tile.2.body?.isSome = true) ∧ '[' ∉ t.tail

instance (t : Tiling) : Decidable t.Complete :=
  inferInstanceAs (Decidable ((∀ tile ∈ t.tiles, tile.2.body?.isSome = true) ∧ '[' ∉ t.tail))

def append (t u : Tiling) : Tiling :=
  let rest := u.prepend t.tail
  ⟨t.tiles ++ rest.tiles, rest.tail⟩

theorem fill_prepend (content : Block → Text) (first : Text) (t : Tiling) :
    (t.prepend first).fill content = first ++ t.fill content := by
  obtain ⟨tiles, tail⟩ := t
  cases tiles with
  | nil => rfl
  | cons tile back => simp [prepend, fill]

theorem fill_append (content : Block → Text) (t u : Tiling) :
    (t.append u).fill content = t.fill content ++ u.fill content := by
  have h := fill_prepend content t.tail u
  simp only [fill] at h ⊢
  simp only [append, List.flatMap_append, List.append_assoc, h]

theorem blocks_prepend (first : Text) (t : Tiling) :
    (t.prepend first).tiles.map Prod.snd = t.tiles.map Prod.snd := by
  obtain ⟨tiles, tail⟩ := t
  cases tiles with
  | nil => rfl
  | cons tile back => rfl

variable {tags : List Text}

theorem Tiles.prepend {first : Text} (hfirst : '[' ∉ first) {t : Tiling}
    (h : Tiles tags t.tail t.tiles) :
    Tiles tags (t.prepend first).tail (t.prepend first).tiles := by
  obtain ⟨tiles, tail⟩ := t
  cases tiles with
  | nil => exact (Block.plain_of_open_not_mem hfirst _).append_left h
  | cons tile back =>
      obtain ⟨before, b⟩ := tile
      obtain ⟨hplain, hstands, hback⟩ := h
      exact ⟨(Block.plain_of_open_not_mem hfirst _).append_left hplain, hstands, hback⟩

theorem Tiles.append (htags : Unbracketed tags) {tail tail' : Text}
    {tiles' : List (Text × Block)} (h' : Tiles tags tail' tiles') :
    ∀ {tiles : List (Text × Block)}, Tiles tags tail tiles →
      (∀ tile ∈ tiles, tile.2.body?.isSome = true) → Tiles tags tail' (tiles ++ tiles') := by
  intro tiles
  induction tiles with
  | nil => intro _ _; exact h'
  | cons tile back ih =>
      intro h closed
      obtain ⟨before, b⟩ := tile
      obtain ⟨hplain, hstands, hback⟩ := h
      have hclosed := closed (before, b) List.mem_cons_self
      exact ⟨hplain.replace_after_source htags _, hstands.replace_after htags hclosed _,
        ih hback fun tile htile => closed tile (List.mem_cons_of_mem _ htile)⟩

theorem ofDocument_append (htags : Unbracketed tags) {d₁ : Text}
    (complete : (ofDocument tags d₁).Complete) (d₂ : Text) :
    ofDocument tags (d₁ ++ d₂) = (ofDocument tags d₁).append (ofDocument tags d₂) := by
  obtain ⟨closed, htail⟩ := complete
  have hsource : ((ofDocument tags d₁).append (ofDocument tags d₂)).source = d₁ ++ d₂ := by
    rw [← fill_source, fill_append, fill_source, fill_source, source_ofDocument,
      source_ofDocument]
  have hrest := (tiles_ofDocument tags d₂).prepend htail
  exact (isTilingOf_iff.mp ⟨hsource, hrest.append htags (tiles_ofDocument tags d₁) closed⟩).symm

end Tiling

end ContentVisibility
