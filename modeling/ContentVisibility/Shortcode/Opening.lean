import ContentVisibility.Text.Blank
import ContentVisibility.Text.Cut

/-! # Opening and closing tags

An opening tag is `[`, a tag, optionally a blank with any text after it, and
the next `]`.  Where several tags fit, the first of the list is taken.  The
closing tag of `t` is `[/t]`. -/
set_option autoImplicit false

namespace ContentVisibility

structure Opening where
  tag : Text
  attributes : Text
  deriving DecidableEq

namespace Opening

def source (o : Opening) : Text := '[' :: (o.tag ++ (o.attributes ++ [']']))

def closeOf (tag : Text) : Text := '[' :: '/' :: (tag ++ [']'])

/-- The attribute part that the text starts with, and what follows its bracket. -/
def attributePart? : Text → Option (Text × Text)
  | [] => none
  | c :: rest =>
      if c = ']' then some ([], rest)
      else if Text.isBlank c then
        (Text.cutAt? [']'] rest).map fun (attributes, after) => (c :: attributes, after)
      else none

def ofTag? (rest tag : Text) : Option (Opening × Text) :=
  match Text.strip? tag rest with
  | none => none
  | some r => (attributePart? r).map fun (attributes, after) => (⟨tag, attributes⟩, after)

/-- The opening tag that the text starts with, and what follows it. -/
def read? (tags : List Text) : Text → Option (Opening × Text)
  | [] => none
  | c :: rest => if c = '[' then tags.findSome? (ofTag? rest) else none

theorem eq_of_attributePart? {s attributes after : Text}
    (h : attributePart? s = some (attributes, after)) : s = attributes ++ (']' :: after) := by
  cases s with
  | nil => simp [attributePart?] at h
  | cons c rest =>
      simp only [attributePart?] at h
      split at h
      · rename_i hc
        obtain ⟨rfl, rfl⟩ := Prod.mk.inj (Option.some.inj h)
        rw [hc]
        rfl
      · split at h
        · obtain ⟨⟨a, r⟩, hcut, heq⟩ := Option.map_eq_some_iff.mp h
          obtain ⟨rfl, rfl⟩ := Prod.mk.inj heq
          rw [Text.eq_of_cutAt? hcut]
          rfl
        · simp at h

theorem eq_of_ofTag? {rest tag after : Text} {o : Opening} (h : ofTag? rest tag = some (o, after)) :
    o.tag = tag ∧ '[' :: rest = o.source ++ after := by
  simp only [ofTag?] at h
  split at h
  · simp at h
  · rename_i r hr
    obtain ⟨⟨a, q⟩, ha, heq⟩ := Option.map_eq_some_iff.mp h
    obtain ⟨rfl, rfl⟩ := Prod.mk.inj heq
    refine ⟨rfl, ?_⟩
    rw [Text.strip?_eq_some_iff.mp hr, eq_of_attributePart? ha]
    simp [source]

/-- What is read is one of the tags, and its source stands at the front. -/
theorem eq_of_read? {tags : List Text} {s after : Text} {o : Opening}
    (h : read? tags s = some (o, after)) : o.tag ∈ tags ∧ s = o.source ++ after := by
  cases s with
  | nil => simp [read?] at h
  | cons c rest =>
      simp only [read?] at h
      split at h
      · rename_i hc
        obtain ⟨tag, htag, hread⟩ := List.exists_of_findSome?_eq_some h
        obtain ⟨ht, hs⟩ := eq_of_ofTag? hread
        exact ⟨ht ▸ htag, hc ▸ hs⟩
      · simp at h

end Opening

end ContentVisibility
