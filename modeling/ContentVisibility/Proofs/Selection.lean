import ContentVisibility.Attributes.Scan
import ContentVisibility.Proofs.Trace
import ContentVisibility.Selector

/-! # What a selection depends on

A block is shown when the inclusion rules admit the viewer and the exclusion
rules do not.  The body decides neither, and no hook and no capability check
sees it: it is only kept or replaced, and compared for the self-test marker.  A
marker holds no bracket. -/
set_option autoImplicit false

namespace ContentVisibility

theorem testMarker_cases (test body content : Text) :
    testMarker test body content = [] ∨ testMarker test body content = passedMarker ∨
      testMarker test body content = failedMarker := by
  rw [testMarker]
  split
  · split
    · exact Or.inr (Or.inl rfl)
    · exact Or.inr (Or.inr rfl)
  · exact Or.inl rfl

theorem open_not_mem_testMarker (test body content : Text) :
    '[' ∉ testMarker test body content := by
  rcases testMarker_cases test body content with h | h | h
  · rw [h]; exact List.not_mem_nil
  · rw [h]; decide
  · rw [h]; decide

theorem close_not_mem_testMarker (test body content : Text) :
    ']' ∉ testMarker test body content := by
  rcases testMarker_cases test body content with h | h | h
  · rw [h]; exact List.not_mem_nil
  · rw [h]; decide
  · rw [h]; decide

/-- A text that is there passes and fails the tests alike, whatever it is. -/
theorem testMarker_self {x y : Text} (hx : x ≠ []) (hy : y ≠ []) (test : Text) :
    testMarker test x x = testMarker test y y := by
  rw [testMarker, testMarker]
  split
  · rename_i mode _
    cases mode with
    | content => simp [TestMode.passes]
    | empty => simp [TestMode.passes, hx, hy]
  · rfl

/-- Only the mode that expects the body compares it. -/
theorem testMarker_of_ne_content {test : Text} (h : test ≠ Keyword.text TestMode.content)
    (x y content : Text) : testMarker test x content = testMarker test y content := by
  rw [testMarker, testMarker]
  split
  · rename_i mode hmode
    cases mode with
    | content => exact absurd (Keyword.eq_text_of_read? hmode) h
    | empty => rfl
  · rfl

theorem RuleSet.calls_choose (set : RuleSet) (onMatch onMiss : Text) (v : Viewer) :
    (set.choose onMatch onMiss v).calls = (set.admits v).calls := by
  cases set with
  | absolute a => rfl
  | rules predicates =>
      simp only [choose, Rule.choose, admits, Rule.firstMatch, Traced.calls_bind,
        Traced.calls_pure, List.append_nil]
      cases (Rule.scan v predicates).value with
      | none => exact List.append_nil _
      | some found => exact List.append_nil _

namespace Selector

def attributesOf (s : Selector) (a : Attributes) : Attributes := (s.hooks.applyAttributes a).value

def inclusion (s : Selector) (a : Attributes) : RuleSet :=
  let a := s.attributesOf a
  RuleSet.ofParts a.audience (s.hooks.applyHideRules (Rule.ofSpec a.audience)).value

def exclusion (s : Selector) (a : Attributes) : RuleSet :=
  let a := s.attributesOf a
  RuleSet.ofParts a.exclude (s.hooks.applyShowRules (Rule.ofSpec a.exclude)).value

/-- The inclusion rules admit the viewer and the exclusion rules do not. -/
def shows (s : Selector) (a : Attributes) (v : Viewer) : Bool :=
  ((s.inclusion a).admits v).value && !((s.exclusion a).admits v).value

/-- Without hooks the attributes of a block are parsed to its rule sets. -/
theorem shows_of_hooks_none {s : Selector} (hooks : s.hooks = .none) (a : Attributes) (v : Viewer) :
    s.shows a v =
      (((RuleSet.parse a.audience).admits v).value &&
        !((RuleSet.parse a.exclude).admits v).value) := by
  rw [shows, inclusion, exclusion, attributesOf, hooks]
  rfl

theorem value_resolve (s : Selector) (a : Attributes) (body : Text) (v : Viewer) :
    (s.resolve a body v).value =
      annotate (s.attributesOf a).test body (if s.shows a v then body else s.hiddenContent) := by
  have hvisible : (if s.shows a v = true then body else s.hiddenContent) =
      if ((s.exclusion a).admits v).value = true then s.hiddenContent
      else if ((s.inclusion a).admits v).value = true then body else s.hiddenContent := by
    rw [shows]
    cases ((s.exclusion a).admits v).value <;> cases ((s.inclusion a).admits v).value <;> rfl
  rw [hvisible]
  simp only [resolve, Traced.value_bind, Traced.value_pure, RuleSet.value_choose]
  rfl

/-- Without a test there is no marker. -/
theorem value_resolve_of_test_eq_nil {s : Selector} {a : Attributes}
    (h : (s.attributesOf a).test = []) (body : Text) (v : Viewer) :
    (s.resolve a body v).value = if s.shows a v then body else s.hiddenContent := by
  rw [value_resolve, h]
  exact List.append_nil _

/-- The host is asked the same whatever the body is. -/
theorem calls_resolve (s : Selector) (a : Attributes) (body : Text) (v : Viewer) :
    (s.resolve a body v).calls =
      (s.hooks.applyAttributes a).calls ++
        ((s.hooks.applyHideRules (Rule.ofSpec (s.attributesOf a).audience)).calls ++
          ((s.hooks.applyShowRules (Rule.ofSpec (s.attributesOf a).exclude)).calls ++
            (((s.inclusion a).admits v).calls ++ ((s.exclusion a).admits v).calls))) := by
  simp only [resolve, Traced.calls_bind, Traced.calls_pure, Traced.calls_log, RuleSet.calls_choose,
    List.append_nil]
  rfl

/-- A resolved text is the body or the hidden content, with a marker behind it. -/
theorem value_resolve_cases (s : Selector) (a : Attributes) (body : Text) (v : Viewer) :
    ∃ marker, '[' ∉ marker ∧ ']' ∉ marker ∧
      (s.resolve a body v).value = (if s.shows a v then body else s.hiddenContent) ++ marker := by
  rw [value_resolve, annotate]
  exact ⟨_, open_not_mem_testMarker _ _ _, close_not_mem_testMarker _ _ _, rfl⟩

end Selector

end ContentVisibility
