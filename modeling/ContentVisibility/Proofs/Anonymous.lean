import ContentVisibility.Proofs.Judgement
import ContentVisibility.Proofs.Selection

/-! # What lets an anonymous viewer in

An anonymous viewer has no role and no capability, and the identity fields are
empty.  A rule without a `!` therefore holds for such a viewer only if it compares
an identity field with the empty text, that is, if it is a user key without a value
(`Predicate.value_holds_anonymous_iff`).  A rule text without a `!` that is not `all`
keeps anonymous viewers out unless it lists such a token, and only then
(`RuleSet.admits_anonymous_iff_valueless`). -/
set_option autoImplicit false

namespace ContentVisibility

namespace Viewer

theorem hasRole_anonymous (name : Text) : anonymous.hasRole name = false := rfl

theorem hasCapability_anonymous (name : Text) : anonymous.hasCapability name = false := rfl

theorem identity_anonymous (key : UserKey) : anonymous.identity key = [] := by
  cases key <;> rfl

end Viewer

namespace Segment

variable {segment : Text} (h : negationMarker ∉ segment)
include h

theorem roleHolds_anonymous : roleHolds segment .anonymous = false := by
  rw [roleHolds, Viewer.hasRole_anonymous, expected_of_not_mem h]
  rfl

theorem value_capabilityHolds_anonymous : (capabilityHolds segment .anonymous).value = false := by
  rw [value_capabilityHolds, Viewer.hasCapability_anonymous, expected_of_not_mem h]
  rfl

theorem identityHolds_anonymous_iff (key : UserKey) :
    identityHolds key segment .anonymous = true ↔ segment = [] := by
  rw [identityHolds, Viewer.identity_anonymous, realName_of_not_mem h, expected_of_not_mem h,
    beq_true, beq_iff_eq]
  exact eq_comm

end Segment

namespace Predicate

theorem value_holds_anonymous_iff {p : Predicate} (hrole : Segment.negationMarker ∉ p.role)
    (hcapability : Segment.negationMarker ∉ p.capability) :
    (p.holds .anonymous).value = true ↔ ∃ key : UserKey, p = ⟨Keyword.text key, []⟩ := by
  have hr := Segment.roleHolds_anonymous hrole
  have hc := Segment.value_capabilityHolds_anonymous hcapability
  obtain ⟨role, capability⟩ := p
  rw [holds_eq, kind]
  cases hread : Keyword.read? (α := UserKey) role with
  | some key =>
      have hkey := Keyword.eq_text_of_read? hread
      constructor
      · intro h
        have hvalue : capability = [] :=
          (Segment.identityHolds_anonymous_iff hcapability key).mp h
        exact ⟨key, by rw [hkey, hvalue]⟩
      · intro h
        obtain ⟨_, heq⟩ := h
        exact (Segment.identityHolds_anonymous_iff hcapability key).mpr (mk.inj heq).2
  | none =>
      have hne := Keyword.read?_eq_none_iff.mp hread
      constructor
      · intro h
        cases hempty : role.isEmpty <;> cases hempty' : capability.isEmpty <;>
          simp [hempty, hempty', hr, hc] at h
      · intro h
        obtain ⟨key, heq⟩ := h
        exact absurd (mk.inj heq).1 (hne key)

/-- A token without a second segment is the first one, with or without the colon. -/
theorem parse_eq_iff {role : Text} (h : separator ∉ role) (token : Text) :
    parse token = ⟨role, []⟩ ↔ token = role ∨ token = role ++ [separator] := by
  constructor
  · intro hparse
    obtain ⟨hrole, hrest⟩ := mk.inj hparse
    have htoken := List.takeWhile_append_dropWhile (p := (· != separator)) (l := token)
    rw [hrole] at htoken
    cases hdrop : token.dropWhile (· != separator) with
    | nil => exact Or.inl (by rw [← htoken, hdrop, List.append_nil])
    | cons c rest =>
        rw [hdrop] at htoken hrest
        obtain rfl : rest = [] := hrest
        have hc := List.head?_dropWhile_not (· != separator) token
        rw [hdrop] at hc
        obtain rfl : c = separator := by simpa using hc
        exact Or.inr htoken.symm
  · intro htoken
    rcases htoken with rfl | rfl
    · exact parse_of_not_mem h
    · exact parse_append h []

end Predicate

/-! ## Rule texts -/

/-- The token names a user key and no value to compare the field with. -/
def Rule.Valueless (token : Text) : Prop :=
  ∃ key : UserKey, token = Keyword.text key ∨ token = Keyword.text key ++ [Predicate.separator]

instance (token : Text) : Decidable (Rule.Valueless token) :=
  decidable_of_iff (∃ key ∈ (Keyword.all : List UserKey),
      token = Keyword.text key ∨ token = Keyword.text key ++ [Predicate.separator])
    (exists_congr fun key => and_iff_right (Keyword.mem_all key))

theorem Rule.valueless_iff {token : Text} :
    Valueless token ↔ ∃ key : UserKey, Predicate.parse token = ⟨Keyword.text key, []⟩ := by
  have hkey : ∀ key : UserKey, Predicate.separator ∉ Keyword.text key := by
    intro key
    cases key <;> decide
  exact exists_congr fun key => (Predicate.parse_eq_iff (hkey key) token).symm

theorem RuleSet.value_admits_anonymous_iff {spec : Text} (positive : Segment.negationMarker ∉ spec)
    (relative : spec ≠ Keyword.text Absolute.everyone) :
    ((parse spec).admits .anonymous).value = true ↔
      ∃ token ∈ Rule.tokens spec, Rule.Valueless token := by
  rw [parse, ofParts]
  cases hread : Keyword.read? (α := Absolute) spec with
  | some a =>
      obtain rfl := Keyword.eq_text_of_read? hread
      cases a with
      | everyone => exact absurd rfl relative
      | loggedIn =>
          refine iff_of_false (by decide) ?_
          intro h
          obtain ⟨token, htoken, key, hkey⟩ := h
          obtain rfl : token = Keyword.text Absolute.loggedIn := List.mem_singleton.mp htoken
          revert hkey
          cases key <;> decide
      | loggedOut => exact absurd (by decide) positive
  | none =>
      have hholds : ∀ token ∈ Rule.tokens spec,
          ((Predicate.parse token).holds .anonymous).value = true ↔ Rule.Valueless token := by
        intro token htoken
        have hspec := Rule.isInfix_of_mem_tokens htoken
        obtain ⟨hrole, hcapability⟩ := Predicate.isInfix_parse token
        rw [Rule.valueless_iff]
        exact Predicate.value_holds_anonymous_iff
          (fun hmem => positive ((hrole.trans hspec).subset hmem))
          (fun hmem => positive ((hcapability.trans hspec).subset hmem))
      rw [value_admits_rules, Rule.ofSpec, Rule.ofTokens]
      constructor
      · intro h
        obtain ⟨p, hp, hp'⟩ := h
        obtain ⟨token, htoken, rfl⟩ := List.mem_map.mp hp
        exact ⟨token, htoken, (hholds token htoken).mp hp'⟩
      · intro h
        obtain ⟨token, htoken, hvalueless⟩ := h
        exact ⟨_, List.mem_map_of_mem htoken, (hholds token htoken).mpr hvalueless⟩

theorem Selector.inclusion_of_unhooked {s : Selector} (attributes : s.hooks.attributes = none)
    (hideRules : s.hooks.hideRules = none) (a : Attributes) :
    s.attributesOf a = a ∧ s.inclusion a = RuleSet.parse a.audience := by
  have hattributes : s.attributesOf a = a := by
    rw [attributesOf, Hooks.applyAttributes, attributes]
    rfl
  refine ⟨hattributes, ?_⟩
  rw [inclusion, hattributes, Hooks.applyHideRules, hideRules]
  rfl

/-- A rule text without a `!`, other than `all`, admits an anonymous viewer exactly if it
lists a user key without a value.  If it does not, no block with this audience is shown
to such a viewer, unless a hook changes its attributes or the rules that show it. -/
theorem RuleSet.admits_anonymous_iff_valueless (spec : Text)
    (positive : Segment.negationMarker ∉ spec) (relative : spec ≠ Keyword.text Absolute.everyone) :
    (((parse spec).admits .anonymous).value = true ↔
      ∃ token ∈ Rule.tokens spec, Rule.Valueless token) ∧
    ((∀ token ∈ Rule.tokens spec, ¬ Rule.Valueless token) →
      ((parse spec).admits .anonymous).value = false ∧
      ∀ (s : Selector) (a : Attributes) (body : Text), s.hooks.attributes = none →
        s.hooks.hideRules = none → a.audience = spec →
          (s.resolve a body .anonymous).value = annotate a.test body s.hiddenContent) := by
  have hiff := value_admits_anonymous_iff positive relative
  refine ⟨hiff, fun valued => ?_⟩
  have hrefused : ((parse spec).admits .anonymous).value = false := by
    refine Bool.eq_false_iff.mpr fun hadmits => ?_
    obtain ⟨token, htoken, hvalueless⟩ := hiff.mp hadmits
    exact valued token htoken hvalueless
  refine ⟨hrefused, fun s a body attributes hideRules haudience => ?_⟩
  obtain ⟨hattributes, hinclusion⟩ := Selector.inclusion_of_unhooked attributes hideRules a
  have hshows : s.shows a .anonymous = false := by
    rw [Selector.shows, hinclusion, haudience, hrefused, Bool.false_and]
  rw [Selector.value_resolve, hshows, hattributes]
  rfl

/-- Every entry names something that the viewer lacks. -/
theorem RuleSet.admits_anonymous_iff_valueless_list :
    let spec := "logged,editor:read, userid:7 ,:read,, none:, all".toList
    let s : Selector := { hooks := { content := some fun _ => [] }, hiddenContent := "-".toList }
    ((parse spec).admits .anonymous).value = false ∧
      (s.resolve { audience := spec } "x".toList .anonymous).value = "-".toList := by
  intro spec s
  have valued : ∀ token ∈ Rule.tokens spec, ¬ Rule.Valueless token := by decide
  obtain ⟨hrefused, hresolve⟩ :=
    (admits_anonymous_iff_valueless spec (by decide) (by decide)).2 valued
  exact ⟨hrefused, hresolve s { audience := spec } "x".toList rfl rfl rfl⟩

/-- The user key alone lets everyone in who has no user id, so the block is shown. -/
theorem RuleSet.admits_anonymous_userid :
    Segment.negationMarker ∉ "userid".toList ∧
      "userid".toList ≠ Keyword.text Absolute.everyone ∧
      ((parse "userid".toList).admits .anonymous).value = true ∧
      (resolveVisibility "userid".toList [] [] "x".toList .anonymous).value = "x".toList := by
  decide

end ContentVisibility
