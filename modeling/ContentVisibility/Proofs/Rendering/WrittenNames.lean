import ContentVisibility.Proofs.Attributes
import ContentVisibility.Proofs.Judgement
import ContentVisibility.Proofs.Rendering.Reach

/-! # Only written names count

Without hooks, every text that is rendered is a part of the document or of the
hidden content with a marker behind it, and every rule stands in such a part.  A
viewer is therefore judged only on the roles and capabilities that these two
texts name (`render_eq_of_agreeOn`). -/
set_option autoImplicit false

namespace ContentVisibility

section Selection
variable {s : Selector} {v w : Viewer}

/-- A default rule text looks nothing up. -/
theorem Attributes.value_admits_default (name : AttributeName) (v w : Viewer)
    (hname : name ≠ .test) :
    ((RuleSet.parse (({} : Attributes).get name)).admits v).value =
      ((RuleSet.parse (({} : Attributes).get name)).admits w).value := by
  cases name with
  | audience => rfl
  | exclude => rfl
  | test => exact absurd rfl hname

theorem Attributes.value_admits_get_parse_congr (same : v.SamePerson w) {raw : Text}
    (agree : v.AgreeOn w raw) (name : AttributeName) (hname : name ≠ .test) :
    ((RuleSet.parse ((parse raw).value.get name)).admits v).value =
      ((RuleSet.parse ((parse raw).value.get name)).admits w).value := by
  rcases get_parse raw name with h | h
  · rw [h]
    exact value_admits_default name v w hname
  · exact RuleSet.value_admits_parse_congr same (agree.of_isInfix h)

theorem Selector.shows_congr (hooks : s.hooks = .none) (same : v.SamePerson w) {raw : Text}
    (agree : v.AgreeOn w raw) :
    s.shows (Attributes.parse raw).value v = s.shows (Attributes.parse raw).value w := by
  have haudience := Attributes.value_admits_get_parse_congr same agree .audience (by decide)
  have hexclude := Attributes.value_admits_get_parse_congr same agree .exclude (by decide)
  simp only [Attributes.get] at haudience hexclude
  rw [shows_of_hooks_none hooks, shows_of_hooks_none hooks, haudience, hexclude]

end Selection

namespace Renderer

section Congruence
variable {r : Renderer} {v w : Viewer}

theorem value_resolveBlock_congr (hooks : r.selector.hooks = .none) (same : v.SamePerson w)
    {b : Block} (agree : v.AgreeOn w b.source) :
    (r.resolveBlock v b).value = (r.resolveBlock w b).value := by
  have hshows : r.selector.shows (Attributes.parse b.attributes).value v =
      r.selector.shows (Attributes.parse b.attributes).value w :=
    Selector.shows_congr hooks same (agree.of_isInfix b.attributes_isInfix_source)
  simp only [resolveBlock, Traced.value_bind, Selector.value_resolve, hshows]

/-- The text with a marker behind it is rendered alike: a block of it ends before
the marker, and its resolved text is again a text to agree on with a marker behind
it. -/
theorem value_renderWithin_congr (hooks : r.selector.hooks = .none) (same : v.SamePerson w)
    (agreeHidden : v.AgreeOn w r.selector.hiddenContent) :
    ∀ (levels : Nat) (s marker : Text), v.AgreeOn w s → ']' ∉ marker →
      (r.renderWithin v levels (s ++ marker)).value =
        (r.renderWithin w levels (s ++ marker)).value := by
  intro levels
  induction levels with
  | zero => intro s marker _ _; rfl
  | succ levels ih =>
      intro s marker agree hmarker
      apply value_renderWithin_succ_congr
      intro tile htile
      obtain ⟨before, b⟩ := tile
      have hsource : b.source <:+: s := by
        have hin := Tiling.source_isInfix_of_mem htile
        obtain ⟨front, hfront⟩ := b.exists_source_eq
        rw [hfront] at hin ⊢
        exact Text.isInfix_of_isInfix_append hin hmarker
      have agreeBlock : v.AgreeOn w b.source := agree.of_isInfix hsource
      have hresolve := value_resolveBlock_congr hooks same agreeBlock
      obtain ⟨next, -, hnext, hvalue⟩ := r.value_resolveBlock_cases w b
      have hexpand : (r.renderWithin v levels (r.resolveBlock w b).value).value =
          (r.renderWithin w levels (r.resolveBlock w b).value).value := by
        rw [hvalue]
        split
        · exact ih b.body next (agreeBlock.of_isInfix b.body_isInfix_source) hnext
        · exact ih r.selector.hiddenContent next agreeHidden hnext
      simp only [renderBlock, Traced.value_bind, hresolve, hexpand]

end Congruence

/-- Without hooks, viewers that are the same person and agree on the names of the
document and of the hidden content get the same page.  So a role or a capability
that neither names can be granted, and the host may answer for the viewer if it
answers alike for the names of both. -/
theorem render_eq_of_agreeOn (r : Renderer) (hooks : r.selector.hooks = .none) (document : Text) :
    (∀ v w : Viewer, v.SamePerson w → v.AgreeOn w document →
      v.AgreeOn w r.selector.hiddenContent →
      (r.render document v).value = (r.render document w).value) ∧
    (∀ (v : Viewer) (name : Text), ¬ name <:+: Segment.realName document →
      ¬ name <:+: Segment.realName r.selector.hiddenContent →
      (r.render document (v.withRole name)).value = (r.render document v).value ∧
        (r.render document (v.withCapability name)).value = (r.render document v).value) ∧
    (∀ (v : Viewer) (check : Text → Bool),
      (∀ name, name <:+: Segment.realName document ∨
        name <:+: Segment.realName r.selector.hiddenContent → check name = v.hasCapability name) →
      (r.render document (v.withCapabilityCheck check)).value = (r.render document v).value) := by
  have hcongr : ∀ v w : Viewer, v.SamePerson w → v.AgreeOn w document →
      v.AgreeOn w r.selector.hiddenContent →
      (r.render document v).value = (r.render document w).value := by
    intro v w same agree agreeHidden
    have h := value_renderWithin_congr hooks same agreeHidden (r.maxDepth + 1) document [] agree
      List.not_mem_nil
    rw [List.append_nil] at h
    exact h
  refine ⟨hcongr, ?_, ?_⟩
  · intro v name hdocument hhidden
    constructor
    · apply hcongr
      · exact ⟨rfl, rfl, rfl, rfl⟩
      · exact Viewer.agreeOn_withRole hdocument
      · exact Viewer.agreeOn_withRole hhidden
    · apply hcongr
      · exact ⟨rfl, rfl, rfl, rfl⟩
      · exact Viewer.agreeOn_withCapability hdocument
      · exact Viewer.agreeOn_withCapability hhidden
  · intro v check hcheck
    apply hcongr
    · exact ⟨rfl, rfl, rfl, rfl⟩
    · exact Viewer.agreeOn_withCapabilityCheck fun name hname => hcheck name (Or.inl hname)
    · exact Viewer.agreeOn_withCapabilityCheck fun name hname => hcheck name (Or.inr hname)

/-- A block in the hidden content names a role that the document does not name. -/
theorem render_eq_of_staff_granted :
    let hiddenContent := "[hide for=author]y[/hide]".toList
    let r : Renderer := ⟨{ hiddenContent }, ["hide".toList], 1⟩
    let document := "[hide for=!e!ditor]x[/hide]".toList
    r.selector.hooks = .none ∧ ¬ "staff".toList <:+: Segment.realName document ∧
      ¬ "staff".toList <:+: Segment.realName hiddenContent ∧
      (r.render document (Viewer.anonymous.withRole "staff".toList)).value =
        (r.render document Viewer.anonymous).value := by
  intro hiddenContent r document
  obtain ⟨-, hgrant, -⟩ := r.render_eq_of_agreeOn rfl document
  have hdocument : ¬ "staff".toList <:+: Segment.realName document :=
    Text.cutAt?_eq_none_iff_not_isInfix.mp (by decide)
  have hhidden : ¬ "staff".toList <:+: Segment.realName hiddenContent :=
    Text.cutAt?_eq_none_iff_not_isInfix.mp (by decide)
  exact ⟨rfl, hdocument, hhidden, (hgrant Viewer.anonymous "staff".toList hdocument hhidden).1⟩

end Renderer

end ContentVisibility
