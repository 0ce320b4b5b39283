import ContentVisibility.Proofs.Text.Occurrence
import ContentVisibility.Shortcode.Opening

/-! # The grammar of opening tags

What an opening tag is, said without the search that finds it.  A tag fits where
brackets, the tag and an attribute part can be read; of several tags that fit
the first of the list stands there.  `Opening.read?` finds exactly these. -/
set_option autoImplicit false

namespace ContentVisibility

namespace Opening

/-- Nothing, or a blank with a text after it that holds no closing bracket. -/
def IsAttributePart (a : Text) : Prop :=
  a = [] ∨ ∃ c rest, a = c :: rest ∧ Text.isBlank c = true ∧ ']' ∉ rest

/-- An opening tag of `tag` can be read at the front of the text. -/
def Fits (tag s : Text) : Prop :=
  ∃ attributes after, IsAttributePart attributes ∧ s = source ⟨tag, attributes⟩ ++ after

/-- The opening tag stands at the front of the text, `after` behind it, and no
earlier tag of the list fits there. -/
def Stands (tags : List Text) (o : Opening) (s after : Text) : Prop :=
  s = o.source ++ after ∧ IsAttributePart o.attributes ∧
    ∃ earlier later, tags = earlier ++ o.tag :: later ∧ ∀ t ∈ earlier, ¬ Fits t s

theorem closeOf_eq (tag : Text) : closeOf tag = ('[' :: '/' :: tag) ++ [']'] := rfl

theorem bracket_not_blank : Text.isBlank ']' = false := by decide

theorem IsAttributePart.not_mem {a : Text} (h : IsAttributePart a) : ']' ∉ a := by
  rcases h with rfl | ⟨c, rest, rfl, hblank, hrest⟩
  · exact List.not_mem_nil
  · intro hmem
    rcases List.mem_cons.mp hmem with rfl | hmem
    · rw [bracket_not_blank] at hblank
      simp at hblank
    · exact hrest hmem

theorem isAttributePart_of_attributePart? {s a after : Text}
    (h : attributePart? s = some (a, after)) : IsAttributePart a := by
  cases s with
  | nil => simp [attributePart?] at h
  | cons c rest =>
      simp only [attributePart?] at h
      split at h
      · obtain ⟨rfl, rfl⟩ := Prod.mk.inj (Option.some.inj h)
        exact Or.inl rfl
      · split at h
        · rename_i hblank
          obtain ⟨⟨q, r⟩, hcut, heq⟩ := Option.map_eq_some_iff.mp h
          obtain ⟨rfl, rfl⟩ := Prod.mk.inj heq
          refine Or.inr ⟨c, q, rfl, hblank, fun hmem => ?_⟩
          -- a bracket within the part would be an earlier place to cut
          obtain ⟨u, w, rfl⟩ := List.append_of_mem hmem
          have hlen := Text.length_le_of_cutAt? hcut u (w ++ ']' :: r)
            (by rw [Text.eq_of_cutAt? hcut]; simp)
          simp only [List.length_append, List.length_cons] at hlen
          omega
        · simp at h

theorem attributePart?_append {a : Text} (h : IsAttributePart a) (after : Text) :
    attributePart? (a ++ ']' :: after) = some (a, after) := by
  rcases h with rfl | ⟨c, rest, rfl, hblank, hrest⟩
  · simp [attributePart?]
  · have hc : c ≠ ']' := by
      intro hc
      subst hc
      rw [bracket_not_blank] at hblank
      simp at hblank
    have hcut : Text.cutAt? [']'] (rest ++ ']' :: after) = some (rest, after) := by
      refine Text.cutAt?_eq_some_iff.mpr ⟨rfl, fun u w huw => ?_⟩
      by_cases hle : rest.length ≤ u.length
      · exact hle
      · have heq : (u ++ [']']) ++ w = rest ++ ']' :: after := by rw [huw, List.append_assoc]
        have hpre : u ++ [']'] <+: rest := by
          apply Text.isPrefix_of_append_eq heq
          simp only [List.length_append, List.length_singleton]
          omega
        exact absurd (hpre.subset (by simp)) hrest
    simp [attributePart?, hc, hblank, hcut]

theorem attributePart?_eq_some_iff {s a after : Text} :
    attributePart? s = some (a, after) ↔ IsAttributePart a ∧ s = a ++ ']' :: after := by
  constructor
  · intro h
    exact ⟨isAttributePart_of_attributePart? h, eq_of_attributePart? h⟩
  · intro h
    obtain ⟨ha, rfl⟩ := h
    exact attributePart?_append ha after

/-! ## Opening tags -/

theorem ofTag?_eq_some_iff {rest tag after : Text} {o : Opening} :
    ofTag? rest tag = some (o, after) ↔
      o.tag = tag ∧ IsAttributePart o.attributes ∧ '[' :: rest = o.source ++ after := by
  constructor
  · intro h
    obtain ⟨htag, hsource⟩ := eq_of_ofTag? h
    refine ⟨htag, ?_, hsource⟩
    simp only [ofTag?] at h
    split at h
    · simp at h
    · obtain ⟨⟨a, q⟩, ha, heq⟩ := Option.map_eq_some_iff.mp h
      obtain ⟨rfl, rfl⟩ := Prod.mk.inj heq
      exact (attributePart?_eq_some_iff.mp ha).1
  · intro h
    obtain ⟨rfl, hpart, hsource⟩ := h
    have hrest : rest = o.tag ++ (o.attributes ++ ']' :: after) := by
      have := (List.cons.inj hsource).2
      simpa using this
    rw [hrest, ofTag?, Text.strip?_append]
    simp [attributePart?_eq_some_iff.mpr ⟨hpart, rfl⟩]

theorem ofTag?_eq_none_iff {rest tag : Text} :
    ofTag? rest tag = none ↔ ¬ Fits tag ('[' :: rest) := by
  constructor
  · intro h hfits
    obtain ⟨a, after, hpart, hsource⟩ := hfits
    rw [ofTag?_eq_some_iff.mpr ⟨rfl, hpart, hsource⟩] at h
    simp at h
  · intro h
    cases hread : ofTag? rest tag with
    | none => rfl
    | some p =>
        obtain ⟨o, after⟩ := p
        obtain ⟨rfl, hpart, hsource⟩ := ofTag?_eq_some_iff.mp hread
        exact absurd ⟨o.attributes, after, hpart, hsource⟩ h

theorem Fits.head_eq {tag s : Text} (h : Fits tag s) : ∃ rest, s = '[' :: rest := by
  obtain ⟨a, after, -, rfl⟩ := h
  exact ⟨_, rfl⟩

theorem read?_eq_some_iff {tags : List Text} {s after : Text} {o : Opening} :
    read? tags s = some (o, after) ↔ Stands tags o s after := by
  constructor
  · intro h
    obtain ⟨-, hsource⟩ := eq_of_read? h
    cases s with
    | nil => simp [read?] at h
    | cons c rest =>
        simp only [read?] at h
        split at h
        · rename_i hc
          subst hc
          obtain ⟨earlier, tag, later, htags, hread, hnone⟩ := List.findSome?_eq_some_iff.mp h
          obtain ⟨rfl, hpart, -⟩ := ofTag?_eq_some_iff.mp hread
          exact ⟨hsource, hpart, earlier, later, htags,
            fun t ht => ofTag?_eq_none_iff.mp (hnone t ht)⟩
        · simp at h
  · intro h
    obtain ⟨rfl, hpart, earlier, later, rfl, hnone⟩ := h
    have hcons : o.source ++ after =
        '[' :: (o.tag ++ (o.attributes ++ [']']) ++ after) := rfl
    rw [hcons] at hnone ⊢
    simp only [read?, if_true]
    refine List.findSome?_eq_some_iff.mpr ⟨earlier, o.tag, later, rfl, ?_, ?_⟩
    · exact ofTag?_eq_some_iff.mpr ⟨rfl, hpart, rfl⟩
    · exact fun t ht => ofTag?_eq_none_iff.mpr (hnone t ht)

theorem read?_eq_none_iff {tags : List Text} {s : Text} :
    read? tags s = none ↔ ∀ t ∈ tags, ¬ Fits t s := by
  cases s with
  | nil =>
      refine ⟨fun _ t _ hfits => ?_, fun _ => rfl⟩
      obtain ⟨rest, hrest⟩ := hfits.head_eq
      simp at hrest
  | cons c rest =>
      by_cases hc : c = '['
      · subst hc
        simp only [read?, if_true, List.findSome?_eq_none_iff, ofTag?_eq_none_iff]
      · simp only [read?, if_neg hc, true_iff]
        intro t _ hfits
        obtain ⟨r, hr⟩ := hfits.head_eq
        exact hc (List.cons.inj hr).1

end Opening

end ContentVisibility
