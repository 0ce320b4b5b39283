import ContentVisibility.Proofs.Selection

/-! # Exclusion wins over inclusion

What a selection yields, said without the passes that compute it.  A host rewrites
the attributes, the rules of either pass and the finished content, but it cannot
rewrite an absolute word: `RuleSet.rewritten` is the rule set that a pass judges
by, and `Marks` says which marker a self-test leaves.  The body is kept only for a
viewer whom the inclusion rules admit and the exclusion rules do not
(`Selector.select_excluded`). -/
set_option autoImplicit false

namespace ContentVisibility

/-- The rule set that a text stands for when a host rewrites the rules it lists. -/
def RuleSet.rewritten (rewrite : List Predicate → List Predicate) (spec : Text) : RuleSet :=
  if spec = "all".toList then .absolute .everyone
  else if spec = "logged".toList then .absolute .loggedIn
  else if spec = "!logged".toList then .absolute .loggedOut
  else .rules (rewrite (Rule.ofSpec spec))

theorem RuleSet.ofParts_rewrite (rewrite : List Predicate → List Predicate) (spec : Text) :
    ofParts spec (rewrite (Rule.ofSpec spec)) = rewritten rewrite spec := by
  cases hread : Keyword.read? (α := Absolute) spec with
  | some a =>
      obtain rfl := Keyword.eq_text_of_read? hread
      rw [ofParts_text]
      cases a <;> rfl
  | none =>
      have hne : ∀ a : Absolute, spec ≠ Keyword.text a := Keyword.read?_eq_none_iff.mp hread
      have hall : spec ≠ "all".toList := hne .everyone
      have hlogged : spec ≠ "logged".toList := hne .loggedIn
      have hnotLogged : spec ≠ "!logged".toList := hne .loggedOut
      rw [ofParts_of_ne_text hne, rewritten, if_neg hall, if_neg hlogged, if_neg hnotLogged]

/-- The marker that a self-test of the given mode leaves behind the content which a
block with this body shows. -/
structure Marks (test body content marker : Text) : Prop where
  of_content : test = "content".toList →
    marker = if content = body then " TEST PASSED!".toList else " TEST FAILED!".toList
  of_empty : test = "empty".toList →
    marker = if content = [] then " TEST PASSED!".toList else " TEST FAILED!".toList
  of_other : test ≠ "content".toList → test ≠ "empty".toList → marker = []

theorem marks_testMarker (test body content : Text) :
    Marks test body content (testMarker test body content) where
  of_content h := by
    have hmode : Keyword.read? test = some TestMode.content := Keyword.read?_eq_some_iff.mpr h
    simp only [testMarker, hmode, TestMode.passes, beq_iff_eq]
    rfl
  of_empty h := by
    have hmode : Keyword.read? test = some TestMode.empty := Keyword.read?_eq_some_iff.mpr h
    simp only [testMarker, hmode, TestMode.passes, List.isEmpty_iff]
    rfl
  of_other hcontent hempty := by
    have hnone : Keyword.read? (α := TestMode) test = none := by
      refine Keyword.read?_eq_none_iff.mpr fun mode => ?_
      cases mode with
      | content => exact hcontent
      | empty => exact hempty
    rw [testMarker, hnone]

namespace Selector

theorem value_select (s : Selector) (a : Attributes) (body : Text) (v : Viewer) :
    (s.select a body v).value =
      s.hooks.content.getD id (annotate (s.attributesOf a).test body
        (if s.shows a v then body else s.hiddenContent)) := by
  rw [select, Traced.value_bind, value_resolve, Hooks.applyContent, Hooks.value_applyAt]

theorem shows_iff (s : Selector) (a : Attributes) (v : Viewer) :
    s.shows a v = true ↔
      ((RuleSet.rewritten (s.hooks.hideRules.getD id)
          (s.hooks.attributes.getD id a).audience).admits v).value = true ∧
      ¬ ((RuleSet.rewritten (s.hooks.showRules.getD id)
          (s.hooks.attributes.getD id a).exclude).admits v).value = true := by
  simp only [shows, inclusion, exclusion, attributesOf, Hooks.applyAttributes,
    Hooks.applyHideRules, Hooks.applyShowRules, Hooks.value_applyAt, RuleSet.ofParts_rewrite,
    Bool.and_eq_true, Bool.not_eq_true', Bool.not_eq_true]

/-- Whatever the hooks rewrite, the body is selected for those whom the inclusion rules
admit and the exclusion rules do not, and the hidden content for all others, each with
the marker of the self-test behind it.  Where no hook is given the content and no test
is on, all others get the hidden content and nothing else. -/
theorem select_excluded (s : Selector) (attributes : Attributes) (body : Text) (v : Viewer) :
    let a := s.hooks.attributes.getD id attributes
    let included := ((RuleSet.rewritten (s.hooks.hideRules.getD id) a.audience).admits v).value
    let excluded := ((RuleSet.rewritten (s.hooks.showRules.getD id) a.exclude).admits v).value
    (∃ content marker,
      (included = true ∧ excluded = false → content = body) ∧
      (excluded = true ∨ included = false → content = s.hiddenContent) ∧
      Marks a.test body content marker ∧
      (s.select attributes body v).value = s.hooks.content.getD id (content ++ marker)) ∧
    (s.hooks.content = none → a.test ≠ "content".toList → a.test ≠ "empty".toList →
      excluded = true ∨ included = false →
        (s.select attributes body v).value = s.hiddenContent ∧
        ((s.select attributes body v).value = body → body = s.hiddenContent)) := by
  intro a included excluded
  have hshows : s.shows attributes v = true ↔ included = true ∧ ¬ excluded = true :=
    s.shows_iff attributes v
  have hkept : excluded = true ∨ included = false → ¬ s.shows attributes v = true := by
    rw [hshows]
    rintro (h | h) ⟨hin, hex⟩
    · exact hex h
    · exact absurd (h.symm.trans hin) Bool.false_ne_true
  have htest : (s.attributesOf attributes).test = a.test := by
    rw [attributesOf, Hooks.applyAttributes, Hooks.value_applyAt]
  have hvalue := s.value_select attributes body v
  rw [htest] at hvalue
  constructor
  · refine ⟨_, _, fun h => ?_, fun h => if_neg (hkept h), marks_testMarker _ _ _, hvalue⟩
    obtain ⟨hin, hex⟩ := h
    exact if_pos (hshows.mpr ⟨hin, Bool.eq_false_iff.mp hex⟩)
  · intro content hcontent hempty hout
    rw [if_neg (hkept hout), content, annotate,
      (marks_testMarker a.test body s.hiddenContent).of_other hcontent hempty,
      List.append_nil] at hvalue
    exact ⟨hvalue, fun h => h.symm.trans hvalue⟩

/-- The hooks exchange the rules and let everyone in by a list; the absolute word that
excludes those who are not logged in stands. -/
theorem select_excluded_word :
    let s : Selector := {
      hooks := {
        attributes := some fun a => { a with audience := "staff".toList, test := "off".toList }
        hideRules := some fun rules => ⟨[], "!none".toList⟩ :: rules
        showRules := some fun _ => [] }
      hiddenContent := "-".toList }
    (s.select { exclude := "!logged".toList, test := "content".toList } "x".toList
      .anonymous).value = "-".toList := by
  intro s
  exact ((s.select_excluded _ _ _).2 rfl (by decide) (by decide) (Or.inl (by decide))).1

end Selector

end ContentVisibility
