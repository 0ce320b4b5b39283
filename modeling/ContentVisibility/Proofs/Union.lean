import ContentVisibility.Rule.Judgement

/-! # Rule texts as sets of tokens

What a rule text lists are its tokens that are not blank.  The tokens of two texts with
a comma between them are those of the one and of the other (`Rule.listed_append`), and a
blank token holds for nobody, so a text that is none of the absolute words admits those
for whom one of its tokens holds, however often and in whatever order they stand
(`RuleSet.admits_union`). -/
set_option autoImplicit false

namespace ContentVisibility

theorem Predicate.holds_parse_nil (v : Viewer) : (parse []).holds v = pure false := rfl

namespace Rule

/-- The elements between the commas, without the blanks around them and without those
that are nothing but blanks. -/
def listed (spec : Text) : List Text :=
  ((Text.pieces listSeparator spec).map Text.trim).filter (· ≠ [])

theorem listed_append (a b : Text) : listed (a ++ listSeparator :: b) = listed a ++ listed b := by
  rw [listed, Text.pieces_append, List.map_append, List.filter_append]
  rfl

theorem mem_listed_iff {spec token : Text} :
    token ∈ listed spec ↔ token ∈ tokens spec ∧ token ≠ [] := by
  rw [listed, List.mem_filter, decide_eq_true_iff]
  by_cases h : spec = []
  · -- the empty text has one element, which is blank, and no token
    subst h
    constructor
    · rintro ⟨hmem, hne⟩
      exact absurd (List.mem_singleton.mp hmem) hne
    · rintro ⟨hmem, -⟩
      exact absurd hmem List.not_mem_nil
  · rw [tokens_of_ne_nil h]

end Rule

namespace RuleSet

theorem value_admits_listed_iff {spec : Text} (relative : ∀ a : Absolute, spec ≠ Keyword.text a)
    (v : Viewer) :
    ((parse spec).admits v).value = true ↔
      ∃ token ∈ Rule.listed spec, ((Predicate.parse token).holds v).value = true := by
  rw [parse, ofParts_of_ne_text relative, value_admits_rules, Rule.ofSpec, Rule.ofTokens]
  constructor
  · rintro ⟨p, hp, hholds⟩
    obtain ⟨token, htoken, rfl⟩ := List.mem_map.mp hp
    have hne : token ≠ [] := by
      rintro rfl
      rw [Predicate.holds_parse_nil] at hholds
      exact Bool.false_ne_true hholds
    exact ⟨token, Rule.mem_listed_iff.mpr ⟨htoken, hne⟩, hholds⟩
  · rintro ⟨token, htoken, hholds⟩
    exact ⟨_, List.mem_map_of_mem (Rule.mem_listed_iff.mp htoken).1, hholds⟩

theorem ne_text_of_listSeparator_mem {spec : Text} (h : Rule.listSeparator ∈ spec) (a : Absolute) :
    spec ≠ Keyword.text a := by
  rintro rfl
  revert h
  cases a <;> decide

/-- Two rule texts that list the same tokens admit the same viewers, and two rule texts
with a comma between them admit the viewers that one of them admits.  The absolute words
are no lists. -/
theorem admits_union (a b : Text) (relative_left : ∀ word : Absolute, a ≠ Keyword.text word)
    (relative_right : ∀ word : Absolute, b ≠ Keyword.text word) :
    ((∀ token, token ∈ Rule.listed a ↔ token ∈ Rule.listed b) →
      ∀ v, ((parse a).admits v).value = ((parse b).admits v).value) ∧
    ∀ v, ((parse (a ++ Rule.listSeparator :: b)).admits v).value = true ↔
      ((parse a).admits v).value = true ∨ ((parse b).admits v).value = true := by
  constructor
  · intro hsame v
    rw [Bool.eq_iff_iff, value_admits_listed_iff relative_left,
      value_admits_listed_iff relative_right]
    exact exists_congr fun token => and_congr_left' (hsame token)
  · intro v
    have hjoined := ne_text_of_listSeparator_mem
      (List.mem_append_right a (List.mem_cons_self (l := b)))
    rw [value_admits_listed_iff relative_left, value_admits_listed_iff relative_right,
      value_admits_listed_iff hjoined, Rule.listed_append]
    simp only [List.mem_append, or_and_right, exists_or]

/-- Order, repetition, blank elements and blanks around the tokens make no difference;
joined to the empty text, the list admits whom it admitted. -/
theorem admits_union_reordered :
    let a := " editor ,,:read\u3000".toList
    let b := ",:read,\teditor, editor,".toList
    (∀ token, token ∈ Rule.listed a ↔ token ∈ Rule.listed b) ∧
      (∀ v, ((parse a).admits v).value = ((parse b).admits v).value) ∧
      ((parse (a ++ Rule.listSeparator :: [])).admits
        (Viewer.anonymous.withCapability "read".toList)).value = true := by
  intro a b
  have relative_a : ∀ word : Absolute, a ≠ Keyword.text word :=
    Keyword.read?_eq_none_iff.mp (by decide)
  have relative_b : ∀ word : Absolute, b ≠ Keyword.text word :=
    Keyword.read?_eq_none_iff.mp (by decide)
  have relative_nil : ∀ word : Absolute, [] ≠ Keyword.text word :=
    Keyword.read?_eq_none_iff.mp (by decide)
  have hsame : ∀ token, token ∈ Rule.listed a ↔ token ∈ Rule.listed b := by
    have ha : Rule.listed a = ["editor".toList, ":read".toList] := by decide
    have hb : Rule.listed b = [":read".toList, "editor".toList, "editor".toList] := by decide
    intro token
    rw [ha, hb]
    simp [or_comm]
  exact ⟨hsame, (admits_union a b relative_a relative_b).1 hsame,
    ((admits_union a [] relative_a relative_nil).2 _).mpr (Or.inl (by decide))⟩

end RuleSet

end ContentVisibility
