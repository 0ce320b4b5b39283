import ContentVisibility.Proofs.Shortcode.Replacement
import ContentVisibility.Settings.Load

/-! # Tags as a set

A tag that consists of tag characters ends where the first other character stands,
so at a place of a document only one such tag fits (`Opening.Fits.unique`), even
where one tag starts with another.  The order in which the tags are listed, and how
often, then decides nothing: lists with the same members tile every document alike
(`Tiling.ofDocument_congr`). -/
set_option autoImplicit false

namespace ContentVisibility

namespace Settings

theorem toNat_of_isTagChar {c : Char} (h : isTagChar c = true) : 45 ≤ c.toNat ∧ c.toNat ≤ 122 := by
  have hupper : c.isUpper = decide (65 ≤ c.toNat ∧ c.toNat ≤ 90) := rfl
  have hlower : c.isLower = (decide (97 ≤ c.toNat) && decide (c.toNat ≤ 122)) := rfl
  have halpha : c.isAlpha = (c.isUpper || c.isLower) := rfl
  have hdigit : c.isDigit = (decide (48 ≤ c.toNat) && decide (c.toNat ≤ 57)) := rfl
  simp only [isTagChar, Char.isAlphanum, halpha, hupper, hlower, hdigit, Bool.or_eq_true,
    Bool.and_eq_true, decide_eq_true_eq, beq_iff_eq] at h
  rcases h with (h | rfl) | rfl
  · omega
  · decide
  · decide

/-- Blanks lie below and above the tag characters. -/
theorem isTagChar_of_isBlank {c : Char} (h : Text.isBlank c = true) : isTagChar c = false := by
  refine Bool.eq_false_iff.mpr fun htag => ?_
  have hbounds := toNat_of_isTagChar htag
  obtain ⟨r, hr, hlow, hhigh⟩ := Text.Ranges.exists_of_contains h
  have hranges : ∀ r ∈ Text.blankRanges, r.2 < 45 ∨ 122 < r.1 := by decide
  rcases hranges r hr with hbelow | habove
  · omega
  · omega

theorem unbracketed_of_isTagChar {tags : List Text}
    (h : ∀ t ∈ tags, ∀ c ∈ t, isTagChar c = true) : Unbracketed tags := by
  intro t ht
  constructor
  · intro hmem
    exact absurd (h t ht _ hmem) (by decide)
  · intro hmem
    exact absurd (h t ht _ hmem) (by decide)

end Settings

namespace Opening

theorem Fits.eq_takeWhile {t s : Text} (h : Fits t s) (ht : ∀ c ∈ t, Settings.isTagChar c = true) :
    t = (s.drop 1).takeWhile Settings.isTagChar := by
  obtain ⟨a, after, hpart, rfl⟩ := h
  have hrest : (source ⟨t, a⟩ ++ after).drop 1 = t ++ (a ++ ']' :: after) := by simp [source]
  have hstop : (a ++ ']' :: after).takeWhile Settings.isTagChar = [] := by
    rcases hpart with rfl | ⟨c, rest, rfl, hblank, -⟩
    · exact List.takeWhile_cons_of_neg (by decide)
    · exact List.takeWhile_cons_of_neg (by simp [Settings.isTagChar_of_isBlank hblank])
  rw [hrest, List.takeWhile_append_of_pos ht, hstop, List.append_nil]

theorem Fits.unique {t u s : Text} (ht : ∀ c ∈ t, Settings.isTagChar c = true)
    (hu : ∀ c ∈ u, Settings.isTagChar c = true) (hts : Fits t s) (hus : Fits u s) : t = u :=
  (hts.eq_takeWhile ht).trans (hus.eq_takeWhile hu).symm

end Opening

/-- Wherever one of the tags can be read, it is the one that is read. -/
theorem Opening.stands_iff {tags : List Text}
    (htags : ∀ t ∈ tags, ∀ c ∈ t, Settings.isTagChar c = true) {o : Opening} {s after : Text} :
    o.Stands tags s after ↔
      s = o.source ++ after ∧ IsAttributePart o.attributes ∧ o.tag ∈ tags := by
  constructor
  · intro h
    obtain ⟨hs, hpart, earlier, later, hsplit, -⟩ := h
    exact ⟨hs, hpart, hsplit ▸ List.mem_append_right _ List.mem_cons_self⟩
  · intro h
    obtain ⟨hs, hpart, hmem⟩ := h
    obtain ⟨earlier, later, hsplit, hnot⟩ := List.eq_append_cons_of_mem hmem
    refine ⟨hs, hpart, earlier, later, hsplit, fun t ht hfits => ?_⟩
    -- another tag that fits would be the tag itself, which is not among the earlier ones
    have hmem' : t ∈ tags := hsplit ▸ List.mem_append_left _ ht
    have heq : t = o.tag := hfits.unique (htags t hmem') (htags o.tag hmem) ⟨_, after, hpart, hs⟩
    exact hnot (heq ▸ ht)

section Members
variable {tags tags' : List Text} (htags : ∀ t ∈ tags, ∀ c ∈ t, Settings.isTagChar c = true)
  (same : ∀ t, t ∈ tags ↔ t ∈ tags')
include htags same

theorem Opening.Stands.congr {o : Opening} {s after : Text} (h : o.Stands tags s after) :
    o.Stands tags' s after := by
  have htags' : ∀ t ∈ tags', ∀ c ∈ t, Settings.isTagChar c = true :=
    fun t ht => htags t ((same t).mpr ht)
  obtain ⟨hs, hpart, hmem⟩ := (stands_iff htags).mp h
  exact (stands_iff htags').mpr ⟨hs, hpart, (same o.tag).mp hmem⟩

theorem Tiling.Tiles.congr {tail : Text} :
    ∀ {tiles : List (Text × Block)}, Tiles tags tail tiles → Tiles tags' tail tiles := by
  have hplain : ∀ {before s : Text}, Block.Plain tags before s → Block.Plain tags' before s := by
    intro before s h u w hw hne t ht
    exact h u w hw hne t ((same t).mpr ht)
  intro tiles
  induction tiles with
  | nil => exact hplain
  | cons tile back ih =>
      intro h
      obtain ⟨before, b⟩ := tile
      obtain ⟨hbefore, ⟨rest, hopening, hends⟩, hback⟩ := h
      exact ⟨hplain hbefore, ⟨rest, hopening.congr htags same, hends⟩, ih hback⟩

theorem Tiling.ofDocument_congr (document : Text) :
    ofDocument tags document = ofDocument tags' document := by
  obtain ⟨hsource, htiles⟩ := isTilingOf_iff.mpr (rfl : ofDocument tags document = _)
  exact isTilingOf_iff.mp ⟨hsource, htiles.congr htags same⟩

end Members

end ContentVisibility
