import ContentVisibility.Attributes.Scan

/-! # Where attribute values stand

Every name and every value that is read from the attribute part of a block stands
in it as written, so an attribute has its default or a part of that text
(`Attributes.get_parse`), and it has its default if the text does not name it
(`Attributes.get_parse_of_not_isInfix`).  An attribute that is written with its value
in quotes is read back (`Attributes.parse_written`). -/
set_option autoImplicit false

namespace ContentVisibility

namespace Assignment

theorem isInfix_of_value? {s value after : Text} (h : value? s = some (value, after)) :
    value <:+: s ∧ after <:+ s := by
  cases s with
  | nil => simp [value?] at h
  | cons c rest =>
      rw [value?] at h
      split at h
      · simp only [quotedValue?] at h
        split at h
        · simp at h
        · rename_i d r hd
          obtain ⟨rfl, rfl⟩ := Prod.mk.inj (Option.some.inj h)
          have hafter : r <:+ rest := (List.suffix_cons d r).trans (hd ▸ List.dropWhile_suffix _)
          have hvalue : rest.takeWhile (· != c) <:+: rest := (List.takeWhile_prefix _).isInfix
          exact ⟨List.infix_cons hvalue, hafter.trans (List.suffix_cons c rest)⟩
      · simp only [bareValue?] at h
        split at h
        · simp at h
        · obtain ⟨rfl, rfl⟩ := Prod.mk.inj (Option.some.inj h)
          exact ⟨(List.takeWhile_prefix _).isInfix, List.dropWhile_suffix _⟩

theorem isInfix_of_read? {s after : Text} {a : Assignment} (h : read? s = some (a, after)) :
    a.value <:+: s ∧ after <:+ s := by
  simp only [read?] at h
  split at h
  · simp at h
  · split at h
    · rename_i rest hrest
      obtain ⟨⟨value, r⟩, hvalue, heq⟩ := Option.map_eq_some_iff.mp h
      obtain ⟨rfl, rfl⟩ := Prod.mk.inj heq
      obtain ⟨hin, hafter⟩ := isInfix_of_value? hvalue
      have hsuffix : rest.dropWhile Text.isBlank <:+ s := by
        have hname : (s.dropWhile Text.isNameChar).dropWhile Text.isBlank <:+ s :=
          (List.dropWhile_suffix _).trans (List.dropWhile_suffix _)
        rw [hrest] at hname
        exact (List.dropWhile_suffix _).trans ((List.suffix_cons _ rest).trans hname)
      exact ⟨hin.trans hsuffix.isInfix, hafter.trans hsuffix⟩
    · simp at h

theorem name_isPrefix_of_read? {s after : Text} {a : Assignment} (h : read? s = some (a, after)) :
    a.name <+: s := by
  simp only [read?] at h
  split at h
  · simp at h
  · split at h
    · obtain ⟨⟨value, r⟩, -, heq⟩ := Option.map_eq_some_iff.mp h
      obtain ⟨rfl, -⟩ := Prod.mk.inj heq
      exact List.takeWhile_prefix _
    · simp at h

theorem skip_suffix (s : Text) : skip s <:+ s := by
  cases s with
  | nil => exact List.suffix_refl _
  | cons c rest =>
      rw [skip]
      split
      · exact (List.dropWhile_suffix _).trans (List.suffix_cons c rest)
      · exact List.suffix_cons c rest

/-- What the scan finds is read at a place of the text. -/
theorem exists_read?_of_mem_scan {s : Text} {a : Assignment} (h : a ∈ scan s) :
    ∃ t after, t <:+ s ∧ read? t = some (a, after) := by
  induction s using scan.induct with
  | case1 =>
      rw [scan_nil] at h
      exact absurd h List.not_mem_nil
  | case2 c rest first after found ih =>
      rw [scan_of_read?_some found] at h
      rcases List.mem_cons.mp h with rfl | h
      · exact ⟨c :: rest, after, List.suffix_refl _, found⟩
      · obtain ⟨t, r, ht, hread⟩ := ih h
        exact ⟨t, r, ht.trans (isInfix_of_read? found).2, hread⟩
  | case3 c rest found ih =>
      rw [scan_of_read?_none found] at h
      obtain ⟨t, r, ht, hread⟩ := ih h
      exact ⟨t, r, ht.trans (skip_suffix (c :: rest)), hread⟩

theorem value_isInfix_of_mem_scan {s : Text} {a : Assignment} (h : a ∈ scan s) :
    a.value <:+: s := by
  obtain ⟨t, after, ht, hread⟩ := exists_read?_of_mem_scan h
  exact (isInfix_of_read? hread).1.trans ht.isInfix

theorem name_isInfix_of_mem_scan {s : Text} {a : Assignment} (h : a ∈ scan s) :
    a.name <:+: s := by
  obtain ⟨t, after, ht, hread⟩ := exists_read?_of_mem_scan h
  exact (name_isPrefix_of_read? hread).isInfix.trans ht.isInfix

/-! ## Reading back -/

theorem value?_quoted {quote : Char} (hquote : isQuote quote = true) {value : Text}
    (h : quote ∉ value) (after : Text) :
    value? (quote :: (value ++ quote :: after)) = some (value, after) := by
  have hall : ∀ c ∈ value, (c != quote) = true := fun c hc => bne_iff_ne.mpr fun e => h (e ▸ hc)
  have htake : (value ++ quote :: after).takeWhile (· != quote) = value := by
    rw [List.takeWhile_append_of_pos hall, List.takeWhile_cons_of_neg (by simp), List.append_nil]
  have hdrop : (value ++ quote :: after).dropWhile (· != quote) = quote :: after := by
    rw [List.dropWhile_append_of_pos hall, List.dropWhile_cons_of_neg (by simp)]
  simp only [value?, hquote, if_true, quotedValue?, hdrop, htake]

theorem read?_quoted {name value : Text} (hne : name ≠ [])
    (hname : ∀ c ∈ name, Text.isNameChar c = true) (hvalue : '"' ∉ value) (after : Text) :
    read? (name ++ '=' :: '"' :: (value ++ '"' :: after)) = some (⟨name, value⟩, after) := by
  have hstop : ¬ Text.isNameChar '=' = true := by decide
  have hblank : ¬ Text.isBlank '=' = true := by decide
  have hquote : ¬ Text.isBlank '"' = true := by decide
  have hread : value? ('"' :: (value ++ '"' :: after)) = some (value, after) :=
    value?_quoted rfl hvalue after
  obtain ⟨c, rest, rfl⟩ := List.exists_cons_of_ne_nil hne
  simp only [read?, List.takeWhile_append_of_pos hname, List.dropWhile_append_of_pos hname,
    List.takeWhile_cons_of_neg hstop, List.dropWhile_cons_of_neg hstop, List.append_nil,
    List.dropWhile_cons_of_neg hblank, List.dropWhile_cons_of_neg hquote, hread, Option.map_some]

end Assignment

namespace Attributes

theorem get_value_assign (attributes : Attributes) (a : Assignment) (name : AttributeName) :
    (attributes.assign a).value.get name =
      if Text.lowerAscii a.name = Keyword.text name then a.value else attributes.get name := by
  rw [assign]
  split
  · rename_i known hknown
    have hname : Text.lowerAscii a.name = Keyword.text name ↔ known = name := by
      rw [← Keyword.read?_eq_some_iff, hknown, Option.some_inj]
    simp only [Traced.value_pure, get_set, hname]
  · rename_i hnone
    rw [if_neg (Keyword.read?_eq_none_iff.mp hnone name)]
    rfl

theorem get_value_foldlM_assign {raw : Text} (name : AttributeName) :
    ∀ (assignments : List Assignment) (attributes : Attributes),
      (∀ a ∈ assignments, a.value <:+: raw) →
      (assignments.foldlM assign attributes).value.get name = attributes.get name ∨
        (assignments.foldlM assign attributes).value.get name <:+: raw := by
  intro assignments
  induction assignments with
  | nil => intro attributes _; exact Or.inl rfl
  | cons a rest ih =>
      intro attributes hraw
      have hrest := ih (attributes.assign a).value fun b hb => hraw b (List.mem_cons_of_mem _ hb)
      rw [List.foldlM_cons, Traced.value_bind]
      rcases hrest with hrest | hrest
      · rw [hrest, get_value_assign]
        split
        · exact Or.inr (hraw a List.mem_cons_self)
        · exact Or.inl rfl
      · exact Or.inr hrest

theorem get_value_foldlM_assign_of_not_named {name : AttributeName} :
    ∀ (assignments : List Assignment) (attributes : Attributes),
      (∀ a ∈ assignments, Text.lowerAscii a.name ≠ Keyword.text name) →
      (assignments.foldlM assign attributes).value.get name = attributes.get name := by
  intro assignments
  induction assignments with
  | nil => intro attributes _; rfl
  | cons a rest ih =>
      intro attributes hname
      have hrest := ih (attributes.assign a).value fun b hb => hname b (List.mem_cons_of_mem _ hb)
      rw [List.foldlM_cons, Traced.value_bind, hrest, get_value_assign,
        if_neg (hname a List.mem_cons_self)]

/-- An attribute has its default or a value that is written. -/
theorem get_parse (raw : Text) (name : AttributeName) :
    (parse raw).value.get name = ({} : Attributes).get name ∨
      (parse raw).value.get name <:+: raw :=
  get_value_foldlM_assign name _ _ fun _ ha => Assignment.value_isInfix_of_mem_scan ha

/-- An attribute that the text does not name, in capitals or small letters, has its
default. -/
theorem get_parse_of_not_isInfix {raw : Text} {name : AttributeName}
    (h : ¬ Keyword.text name <:+: Text.lowerAscii raw) :
    (parse raw).value.get name = ({} : Attributes).get name := by
  refine get_value_foldlM_assign_of_not_named _ _ fun a ha heq => h ?_
  rw [← heq]
  exact (Assignment.name_isInfix_of_mem_scan ha).map _

def written (name : AttributeName) (value : Text) : Text :=
  ' ' :: (Keyword.text name ++ '=' :: '"' :: (value ++ ['"']))

theorem parse_written (name : AttributeName) {value : Text} (h : '"' ∉ value) :
    parse (written name value) = pure (({} : Attributes).set value name) := by
  have hne : (Keyword.text name : Text) ≠ [] := by cases name <;> decide
  have hname : (Keyword.text name : Text).all Text.isNameChar = true := by
    cases name <;> decide
  have hlower : Text.lowerAscii (Keyword.text name) = Keyword.text name := by
    cases name <;> decide
  have hread := Assignment.read?_quoted hne (List.all_eq_true.mp hname) h []
  have hscan : Assignment.scan (written name value) = [⟨Keyword.text name, value⟩] := by
    have hblank : Assignment.read? (written name value) = none := rfl
    rw [written, Assignment.scan_of_read?_none hblank]
    exact (Assignment.scan_of_read?_some hread).trans (by rw [Assignment.scan_nil])
  rw [parse, hscan, List.foldlM_cons, assign, hlower, Keyword.read?_text]
  rfl

example : written .audience "editor, :read".toList = " for=\"editor, :read\"".toList := by decide

end Attributes

end ContentVisibility
