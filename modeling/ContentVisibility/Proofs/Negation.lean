import ContentVisibility.Rule.Judgement

/-! # Negation

A marker in front of a segment turns its outcome round, whoever is judged
(`Segment.roleHolds_negated` and its kin), so a predicate and the predicates that negate
its segments divide the viewers among them (`Predicate.negation_splits`).  A marker
anywhere else stands neither for the sign nor in the name: a predicate with markers put
in is judged like the predicate without them, with the same questions, as long as its
role segment is a user key in both or in neither (`Predicate.holds_remarked`). -/
set_option autoImplicit false

namespace ContentVisibility

namespace Segment

variable {s : Text}

theorem beq_expected_negated (h : isNegative s = false) (b : Bool) :
    (b == expected (negationMarker :: s)) = !(b == expected s) := by
  rw [expected_negated, expected_of_not_negative h]
  cases b <;> rfl

section Outcome
variable (h : isNegative s = false) (v : Viewer)
include h

theorem roleHolds_negated : roleHolds (negationMarker :: s) v = !roleHolds s v := by
  rw [roleHolds, realName_negated, beq_expected_negated h]
  rfl

theorem value_capabilityHolds_negated :
    (capabilityHolds (negationMarker :: s) v).value = !(capabilityHolds s v).value := by
  rw [value_capabilityHolds, value_capabilityHolds, realName_negated, beq_expected_negated h]

theorem identityHolds_negated (key : UserKey) :
    identityHolds key (negationMarker :: s) v = !identityHolds key s v := by
  rw [identityHolds, realName_negated, beq_expected_negated h]
  rfl

end Outcome

end Segment

/-- Exactly one of the predicates holds for the viewer. -/
def Viewer.MeetsOne (v : Viewer) (predicates : List Predicate) : Prop :=
  predicates.countP (fun p => (p.holds v).value) = 1

namespace Predicate

variable {r c : Text} (v : Viewer)

theorem meetsOne_pair {p q : Predicate} {v : Viewer}
    (h : (q.holds v).value = !(p.holds v).value) : v.MeetsOne [p, q] := by
  rw [Viewer.MeetsOne]
  cases hp : (p.holds v).value <;> simp [h, hp]

theorem meetsOne_role (hr : r ≠ []) (positive : Segment.isNegative r = false)
    (hkey : ∀ key : UserKey, r ≠ Keyword.text key) :
    v.MeetsOne [⟨r, []⟩, ⟨Segment.negationMarker :: r, []⟩] := by
  have hempty : r.isEmpty = false := List.isEmpty_eq_false_iff.mpr hr
  apply meetsOne_pair
  rw [value_holds (kind_of_ne_text hkey _), value_holds (kind_of_ne_text (·.negated_ne_text r) _)]
  simp [isEmpty, hempty, Segment.roleHolds_negated positive]

theorem meetsOne_capability (hc : c ≠ []) (positive : Segment.isNegative c = false) :
    v.MeetsOne [⟨[], c⟩, ⟨[], Segment.negationMarker :: c⟩] := by
  have hempty : c.isEmpty = false := List.isEmpty_eq_false_iff.mpr hc
  apply meetsOne_pair
  rw [value_holds (kind_of_ne_text UserKey.nil_ne_text _),
    value_holds (kind_of_ne_text UserKey.nil_ne_text _)]
  simp [isEmpty, hempty, Segment.value_capabilityHolds_negated positive]

theorem meetsOne_identity (key : UserKey) {value : Text}
    (positive : Segment.isNegative value = false) :
    v.MeetsOne [⟨Keyword.text key, value⟩, ⟨Keyword.text key, Segment.negationMarker :: value⟩] := by
  apply meetsOne_pair
  rw [holds_user, holds_user, Traced.value_pure, Traced.value_pure,
    Segment.identityHolds_negated positive]

/-- The signs with which both segments hold are determined, each by one look-up. -/
theorem meetsOne_both (hr : r ≠ []) (positive_role : Segment.isNegative r = false)
    (hkey : ∀ key : UserKey, r ≠ Keyword.text key) (hc : c ≠ [])
    (positive_capability : Segment.isNegative c = false) :
    v.MeetsOne [⟨r, c⟩, ⟨Segment.negationMarker :: r, c⟩, ⟨r, Segment.negationMarker :: c⟩,
      ⟨Segment.negationMarker :: r, Segment.negationMarker :: c⟩] := by
  have hvalue : ∀ {role capability : Text}, (∀ key : UserKey, role ≠ Keyword.text key) →
      role ≠ [] → capability ≠ [] → (holds ⟨role, capability⟩ v).value =
        (Segment.roleHolds role v && (Segment.capabilityHolds capability v).value) := by
    intro role capability hne hrole hcapability
    have hempty : role.isEmpty = false := List.isEmpty_eq_false_iff.mpr hrole
    have hempty' : capability.isEmpty = false := List.isEmpty_eq_false_iff.mpr hcapability
    rw [value_holds (kind_of_ne_text hne _)]
    simp [isEmpty, hempty, hempty']
  have hnegated : ∀ key : UserKey, Segment.negationMarker :: r ≠ Keyword.text key :=
    fun key => key.negated_ne_text r
  rw [Viewer.MeetsOne]
  simp only [List.countP_cons, List.countP_nil, hvalue hkey hr hc,
    hvalue hkey hr (List.cons_ne_nil _ c), hvalue hnegated (List.cons_ne_nil _ r) hc,
    hvalue hnegated (List.cons_ne_nil _ r) (List.cons_ne_nil _ c),
    Segment.roleHolds_negated positive_role,
    Segment.value_capabilityHolds_negated positive_capability]
  cases Segment.roleHolds r v <;> cases (Segment.capabilityHolds c v).value <;> rfl

end Predicate

namespace Segment

/-! ## Markers put in -/

inductive Marked : Text → Text → Prop
  | nil : Marked [] []
  | keep {s t : Text} (c : Char) : Marked s t → Marked (c :: s) (c :: t)
  | marker {s t : Text} : Marked s t → Marked s (negationMarker :: t)

theorem Marked.refl (s : Text) : Marked s s := by
  induction s with
  | nil => exact .nil
  | cons c s ih => exact .keep c ih

theorem Marked.insert (before after : Text) :
    Marked (before ++ after) (before ++ negationMarker :: after) := by
  induction before with
  | nil => exact .marker (.refl after)
  | cons c before ih => exact .keep c ih

theorem Marked.realName_eq {s t : Text} (h : Marked s t) : realName t = realName s := by
  induction h with
  | nil => rfl
  | keep c _ ih =>
      rw [realName, realName, List.filter_cons, List.filter_cons]
      rw [realName, realName] at ih
      rw [ih]
  | marker _ ih => rw [realName_negated, ih]

/-- Markers are put in, but none that would stand in front where none stood.  What is
behind the first marker of a negative segment is not in front, and nothing is put into
an empty segment. -/
structure Remarked (s t : Text) : Prop where
  marked : Marked s t
  head_eq : t.head? = s.head?

namespace Remarked

variable {s t : Text}

theorem insert {before : Text} (h : before ≠ []) (after : Text) :
    Remarked (before ++ after) (before ++ negationMarker :: after) := by
  refine ⟨.insert before after, ?_⟩
  obtain ⟨c, rest, rfl⟩ := List.exists_cons_of_ne_nil h
  rfl

theorem isEmpty_eq (h : Remarked s t) : t.isEmpty = s.isEmpty := by
  rw [Bool.eq_iff_iff, List.isEmpty_iff, List.isEmpty_iff, ← List.head?_eq_none_iff, h.head_eq,
    List.head?_eq_none_iff]

theorem expected_eq (h : Remarked s t) : expected t = expected s := by
  rw [expected, expected, isNegative, isNegative, h.head_eq]

theorem roleHolds_eq (h : Remarked s t) (v : Viewer) : roleHolds t v = roleHolds s v := by
  rw [roleHolds, roleHolds, h.marked.realName_eq, h.expected_eq]

theorem capabilityHolds_eq (h : Remarked s t) (v : Viewer) :
    capabilityHolds t v = capabilityHolds s v := by
  rw [capabilityHolds, capabilityHolds, h.marked.realName_eq, h.expected_eq]

theorem identityHolds_eq (h : Remarked s t) (key : UserKey) (v : Viewer) :
    identityHolds key t v = identityHolds key s v := by
  rw [identityHolds, identityHolds, h.marked.realName_eq, h.expected_eq]

/-- A user key holds no marker, so from one user key no other is made. -/
theorem read?_eq (h : Remarked s t)
    (hkey : (∃ key : UserKey, s = Keyword.text key) ↔ ∃ key : UserKey, t = Keyword.text key) :
    Keyword.read? (α := UserKey) t = Keyword.read? s := by
  by_cases hs : ∃ key : UserKey, s = Keyword.text key
  · obtain ⟨key, rfl⟩ := hs
    obtain ⟨key', rfl⟩ := hkey.mp ⟨key, rfl⟩
    have hname : ∀ key : UserKey, realName (Keyword.text key) = Keyword.text key := by
      intro key
      cases key <;> rfl
    have heq := h.marked.realName_eq
    rw [hname, hname] at heq
    rw [heq]
  · have ht : ¬ ∃ key : UserKey, t = Keyword.text key := fun h => hs (hkey.mpr h)
    rw [Keyword.read?_eq_none_iff.mpr (not_exists.mp hs),
      Keyword.read?_eq_none_iff.mpr (not_exists.mp ht)]

end Remarked

end Segment

namespace Predicate

theorem holds_remarked {p q : Predicate} (role : Segment.Remarked p.role q.role)
    (capability : Segment.Remarked p.capability q.capability)
    (key : (∃ key : UserKey, p.role = Keyword.text key) ↔
      ∃ key : UserKey, q.role = Keyword.text key) (v : Viewer) :
    q.holds v = p.holds v := by
  have hkind : q.kind = p.kind := by
    rw [kind, kind, role.read?_eq key]
  simp only [holds_eq, hkind, role.isEmpty_eq, capability.isEmpty_eq, role.roleHolds_eq,
    capability.capabilityHolds_eq, capability.identityHolds_eq]

/-- A predicate that tests for rights, with the predicates that negate its segments, is
met by every viewer in exactly one of its forms, and so is a predicate on a user key.
Markers that are put in anywhere but in front change neither what a predicate yields nor
what it asks for, unless the role segment stops being a user key. -/
theorem negation_splits (v : Viewer) :
    (∀ r c : Text, r ≠ [] → Segment.isNegative r = false →
      (∀ key : UserKey, r ≠ Keyword.text key) → c ≠ [] → Segment.isNegative c = false →
        v.MeetsOne [⟨r, c⟩, ⟨'!' :: r, c⟩, ⟨r, '!' :: c⟩, ⟨'!' :: r, '!' :: c⟩]) ∧
    (∀ r : Text, r ≠ [] → Segment.isNegative r = false →
      (∀ key : UserKey, r ≠ Keyword.text key) → v.MeetsOne [⟨r, []⟩, ⟨'!' :: r, []⟩]) ∧
    (∀ c : Text, c ≠ [] → Segment.isNegative c = false →
      v.MeetsOne [⟨[], c⟩, ⟨[], '!' :: c⟩]) ∧
    (∀ (key : UserKey) (value : Text), Segment.isNegative value = false →
      v.MeetsOne [⟨Keyword.text key, value⟩, ⟨Keyword.text key, '!' :: value⟩]) ∧
    ∀ p q : Predicate, Segment.Remarked p.role q.role →
      Segment.Remarked p.capability q.capability →
      ((∃ key : UserKey, p.role = Keyword.text key) ↔
        ∃ key : UserKey, q.role = Keyword.text key) → q.holds v = p.holds v := by
  refine ⟨fun r c => ?_, fun r => ?_, fun c => ?_, fun key value => ?_, fun p q => ?_⟩
  · intro hr positive_role hkey hc positive_capability
    exact meetsOne_both v hr positive_role hkey hc positive_capability
  · intro hr positive hkey
    exact meetsOne_role v hr positive hkey
  · intro hc positive
    exact meetsOne_capability v hc positive
  · intro positive
    exact meetsOne_identity v key positive
  · intro role capability key
    exact holds_remarked role capability key v

/-- The host is asked for the same name whether or not a marker stands in the middle of
it, and a user key without a value is negated by a marker alone. -/
theorem negation_splits_hosted :
    let v := (Viewer.anonymous.withRole "admin".toList).withCapabilityCheck (· == "read".toList)
    let p : Predicate := ⟨"!edi".toList ++ "tor".toList, "re".toList ++ "ad".toList⟩
    let q : Predicate := ⟨"!edi".toList ++ '!' :: "tor".toList, "re".toList ++ '!' :: "ad".toList⟩
    v.MeetsOne [⟨"ad!min".toList, "read".toList⟩, ⟨"!ad!min".toList, "read".toList⟩,
        ⟨"ad!min".toList, "!read".toList⟩, ⟨"!ad!min".toList, "!read".toList⟩] ∧
      v.MeetsOne [⟨"userid".toList, []⟩, ⟨"userid".toList, "!".toList⟩] ∧
      q.holds v = p.holds v ∧ (q.holds v).calls = [.capability "read".toList] := by
  intro v p q
  obtain ⟨hboth, -, -, hidentity, hremarked⟩ := negation_splits v
  have hkey : ∀ key : UserKey, "ad!min".toList ≠ Keyword.text key := by
    intro key
    cases key <;> decide
  have hsame : q.holds v = p.holds v :=
    hremarked p q (.insert (by decide) _) (.insert (by decide) _)
      (iff_of_false (fun ⟨key, h⟩ => key.negated_ne_text _ h)
        fun ⟨key, h⟩ => key.negated_ne_text _ h)
  refine ⟨hboth _ _ (by decide) (by decide) hkey (by decide) (by decide),
    hidentity .id [] (by decide), hsame, ?_⟩
  rw [hsame]
  rfl

end Predicate

end ContentVisibility
