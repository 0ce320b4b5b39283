import ContentVisibility.Proofs.Judgement
import ContentVisibility.Proofs.Selection

/-! # More rights

A viewer with more roles and capabilities meets more of the segments that ask for one
and fewer of the segments that ask for its absence.  A rule set in which no segment is
negated therefore goes on admitting whom it admits when rights are gained, a rule set
in which all are negated when rights are lost, and a block that one of the former shows
and one of the latter hides again stays shown (`RuleSet.admits_of_promoted`). -/
set_option autoImplicit false

namespace ContentVisibility

theorem NameSet.contains_insert_of_contains {names : NameSet} {name n : Text}
    (h : names.contains n = true) : (names.insert name).contains n = true := by
  rw [contains_iff_mem] at h ⊢
  exact mem_insert.mpr (Or.inr h)

namespace Viewer

theorem SamePerson.trans {u v w : Viewer} (h : SamePerson u v) (h' : SamePerson v w) :
    SamePerson u w :=
  ⟨h.isLoggedIn.trans h'.isLoggedIn, h.userId.trans h'.userId, h.username.trans h'.username,
    h.userEmail.trans h'.userEmail⟩

/-- The second viewer is the same person with every right of the first. -/
structure Promoted (v w : Viewer) : Prop extends SamePerson v w where
  roles : ∀ name, v.hasRole name = true → w.hasRole name = true
  capabilities : ∀ name, v.hasCapability name = true → w.hasCapability name = true

theorem Promoted.trans {u v w : Viewer} (h : Promoted u v) (h' : Promoted v w) : Promoted u w where
  toSamePerson := h.toSamePerson.trans h'.toSamePerson
  roles name hname := h'.roles name (h.roles name hname)
  capabilities name hname := h'.capabilities name (h.capabilities name hname)

theorem promoted_withRole (v : Viewer) (role : Text) : v.Promoted (v.withRole role) where
  toSamePerson := ⟨rfl, rfl, rfl, rfl⟩
  roles _ h := NameSet.contains_insert_of_contains h
  capabilities _ h := h

theorem promoted_withCapability (v : Viewer) (capability : Text) :
    v.Promoted (v.withCapability capability) where
  toSamePerson := ⟨rfl, rfl, rfl, rfl⟩
  roles _ h := h
  capabilities name h := by
    unfold hasCapability withCapability at *
    cases hcheck : v.capabilityCheck with
    | some check =>
        -- the host goes on answering
        simp only [hcheck] at h ⊢
        exact h
    | none =>
        simp only [hcheck] at h ⊢
        exact NameSet.contains_insert_of_contains h

end Viewer

variable {v w : Viewer}

namespace Segment

variable {s : Text}

theorem beq_expected_of_positive {b c : Bool} (h : b = true → c = true)
    (positive : isNegative s = false) : (b == expected s) = true → (c == expected s) = true := by
  rw [expected_of_not_negative positive, beq_true, beq_true]
  exact h

theorem beq_expected_of_negative {b c : Bool} (h : b = true → c = true)
    (negative : isNegative s = true) : (c == expected s) = true → (b == expected s) = true := by
  rw [expected_of_negative negative, beq_false, beq_false, Bool.not_eq_true',
    Bool.not_eq_true', ← Bool.not_eq_true, ← Bool.not_eq_true]
  exact mt h

section Promoted
variable (h : v.Promoted w)
include h

theorem roleHolds_of_positive (positive : isNegative s = false) :
    roleHolds s v = true → roleHolds s w = true :=
  beq_expected_of_positive (h.roles _) positive

theorem roleHolds_of_negative (negative : isNegative s = true) :
    roleHolds s w = true → roleHolds s v = true :=
  beq_expected_of_negative (h.roles _) negative

theorem capabilityHolds_of_positive (positive : isNegative s = false) :
    (capabilityHolds s v).value = true → (capabilityHolds s w).value = true := by
  rw [value_capabilityHolds, value_capabilityHolds]
  exact beq_expected_of_positive (h.capabilities _) positive

theorem capabilityHolds_of_negative (negative : isNegative s = true) :
    (capabilityHolds s w).value = true → (capabilityHolds s v).value = true := by
  rw [value_capabilityHolds, value_capabilityHolds]
  exact beq_expected_of_negative (h.capabilities _) negative

end Promoted

end Segment

/-! ## Rule sets -/

namespace RuleSet

/-- No segment that tests a right is negated. -/
def Positive (set : RuleSet) : Prop :=
  ∀ p ∈ set.predicates, p.kind = .roleCapability →
    Segment.isNegative p.role = false ∧ Segment.isNegative p.capability = false

def Negative (set : RuleSet) : Prop :=
  ∀ p ∈ set.predicates, p.kind = .roleCapability →
    (p.role ≠ [] → Segment.isNegative p.role = true) ∧
    (p.capability ≠ [] → Segment.isNegative p.capability = true)

instance (set : RuleSet) : Decidable set.Positive :=
  inferInstanceAs (Decidable (∀ p ∈ set.predicates, p.kind = .roleCapability → _ ∧ _))

instance (set : RuleSet) : Decidable set.Negative :=
  inferInstanceAs (Decidable (∀ p ∈ set.predicates, p.kind = .roleCapability → _ ∧ _))

theorem Positive.value_admits (h : v.Promoted w) {set : RuleSet} (positive : set.Positive) :
    (set.admits v).value = true → (set.admits w).value = true := by
  refine value_admits_of_predicates h.toSamePerson fun p hp => ?_
  refine Predicate.value_holds_of_segments h.toSamePerson ?_ ?_
  · intro hkind _
    exact Segment.roleHolds_of_positive h (positive p hp hkind).1
  · intro hkind _
    exact Segment.capabilityHolds_of_positive h (positive p hp hkind).2

theorem Negative.value_admits (h : v.Promoted w) {set : RuleSet} (negative : set.Negative) :
    (set.admits w).value = true → (set.admits v).value = true := by
  refine value_admits_of_predicates h.toSamePerson.symm fun p hp => ?_
  refine Predicate.value_holds_of_segments h.toSamePerson.symm ?_ ?_
  · intro hkind hne
    exact Segment.roleHolds_of_negative h ((negative p hp hkind).1 hne)
  · intro hkind hne
    exact Segment.capabilityHolds_of_negative h ((negative p hp hkind).2 hne)

end RuleSet

namespace Selector

variable {s : Selector} {a : Attributes}

theorem shows_of_promoted (h : v.Promoted w) (hooks : s.hooks = .none)
    (positive : (RuleSet.parse a.audience).Positive)
    (negative : (RuleSet.parse a.exclude).Negative) : s.shows a v = true → s.shows a w = true := by
  rw [shows_of_hooks_none hooks, shows_of_hooks_none hooks, Bool.and_eq_true, Bool.and_eq_true,
    Bool.not_eq_true', Bool.not_eq_true', ← Bool.not_eq_true, ← Bool.not_eq_true]
  rintro ⟨hin, hout⟩
  exact ⟨positive.value_admits h hin, mt (negative.value_admits h) hout⟩

/-- A block that comes out as its body for one viewer does so for another to whom it is
shown if it is shown to the first. -/
theorem value_resolve_of_shows (body : Text) (h : s.shows a v = true → s.shows a w = true)
    (hv : (s.resolve a body v).value = annotate (s.attributesOf a).test body body) :
    (s.resolve a body w).value = annotate (s.attributesOf a).test body body := by
  rw [value_resolve] at hv ⊢
  by_cases hw : s.shows a w = true
  · rw [if_pos hw]
  · rw [if_neg (mt h hw)] at hv
    rw [if_neg hw, hv]

end Selector

/-- When rights are gained, a rule text without negated segments goes on admitting whom
it admits, and one with nothing but negated segments admits nobody whom it did not
admit.  A block with an audience of the first kind and an exclusion of the second stays
shown: it still comes out as its body, with the marker of its self-test behind it. -/
theorem RuleSet.admits_of_promoted (promoted : v.Promoted w) :
    (∀ spec, (parse spec).Positive →
      ((parse spec).admits v).value = true → ((parse spec).admits w).value = true) ∧
    (∀ spec, (parse spec).Negative →
      ((parse spec).admits w).value = true → ((parse spec).admits v).value = true) ∧
    ∀ (s : Selector) (a : Attributes) (body : Text), s.hooks = .none →
      (parse a.audience).Positive → (parse a.exclude).Negative →
        (s.shows a v = true → s.shows a w = true) ∧
        ((s.resolve a body v).value = annotate a.test body body →
          (s.resolve a body w).value = annotate a.test body body) := by
  refine ⟨fun spec positive => positive.value_admits promoted,
    fun spec negative => negative.value_admits promoted, ?_⟩
  intro s a body hooks positive negative
  have hshows := Selector.shows_of_promoted promoted hooks positive negative
  have hattributes : s.attributesOf a = a := by
    rw [Selector.attributesOf, hooks]
    rfl
  have hresolve := Selector.value_resolve_of_shows body hshows
  rw [hattributes] at hresolve
  exact ⟨hshows, hresolve⟩

/-- An author who becomes an editor with another capability still reads the block. -/
theorem RuleSet.admits_of_promoted_author :
    let v := ((Viewer.loggedIn "42".toList [] []).withRole "author".toList).withCapability
      "read".toList
    let w := (v.withRole "editor".toList).withCapability "write".toList
    let a : Attributes := {
      audience := "editor, author:read,username:!bob".toList
      exclude := "!author:!write,:!read , userid:7".toList
      test := "content".toList }
    v.Promoted w ∧ (parse a.audience).Positive ∧ (parse a.exclude).Negative ∧
      (({} : Selector).resolve a "x".toList w).value = "x TEST PASSED!".toList := by
  intro v w a
  have promoted : v.Promoted w :=
    (v.promoted_withRole _).trans ((v.withRole _).promoted_withCapability _)
  have positive : (parse a.audience).Positive := by decide
  have negative : (parse a.exclude).Negative := by decide
  have hv : (({} : Selector).resolve a "x".toList v).value =
      annotate a.test "x".toList "x".toList := by decide
  exact ⟨promoted, positive, negative,
    ((admits_of_promoted promoted).2.2 {} a "x".toList rfl positive negative).2 hv⟩

end ContentVisibility
