import ContentVisibility.Proofs.Questions
import ContentVisibility.Proofs.Selection
import Mathlib.Order.Bounds.Defs

/-! # Where a scan ends

A scan ends at the first predicate that holds and does not look at what stands behind
it.  The place where it ends is all that the ways of resolving a rule list need
(`Rule.Resolved`), so they agree with each other and ask the host the same questions
in the same order (`RuleSet.resolutions_agree`). -/
set_option autoImplicit false

namespace ContentVisibility

/-- The predicate is judged by its capability: it has one, it is not about a user key,
and its role segment has not failed already. -/
structure Predicate.Asks (p : Predicate) (v : Viewer) : Prop where
  role_ne_text : ∀ key : UserKey, p.role ≠ Keyword.text key
  capability_ne_nil : p.capability ≠ []
  role_holds : p.role = [] ∨ Segment.roleHolds p.role v = true

theorem Predicate.asks_iff (p : Predicate) (v : Viewer) :
    p.Asks v ↔ Keyword.read? (α := UserKey) p.role = none ∧ p.capability ≠ [] ∧
      (p.role = [] ∨ Segment.roleHolds p.role v = true) := by
  rw [Keyword.read?_eq_none_iff]
  exact ⟨fun h => ⟨h.1, h.2, h.3⟩, fun h => ⟨h.1, h.2.1, h.2.2⟩⟩

instance (p : Predicate) (v : Viewer) : Decidable (p.Asks v) :=
  decidable_of_iff _ (p.asks_iff v).symm

theorem Predicate.questions_eq (p : Predicate) (v : Viewer) :
    p.questions v = if p.Asks v then [Segment.realName p.capability] else [] := by
  rw [questions, kind]
  cases hread : Keyword.read? (α := UserKey) p.role with
  | some key =>
      have hasks : ¬ p.Asks v := fun h => h.role_ne_text key (Keyword.eq_text_of_read? hread)
      rw [if_neg hasks]
  | none =>
      have hasks : p.Asks v ↔
          (!p.capability.isEmpty && (p.role.isEmpty || Segment.roleHolds p.role v)) = true := by
        simp [asks_iff, hread]
      simp only [hasks]

namespace Rule

variable {v : Viewer}

def HoldsAt (v : Viewer) (predicates : List Predicate) (index : Nat) : Prop :=
  ∃ p, predicates[index]? = some p ∧ (p.holds v).value = true

theorem value_firstMatch (v : Viewer) (predicates : List Predicate) :
    (firstMatch predicates v).value = predicates.findIdx? fun p => (p.holds v).value := by
  simp only [firstMatch, Traced.value_bind, Traced.value_pure]
  induction predicates with
  | nil => rfl
  | cons p rest ih =>
      rw [List.findIdx?_cons, ← ih]
      by_cases h : (p.holds v).value = true
      · rw [scan_cons_of_holds h, if_pos h]
        rfl
      · rw [scan_cons_of_not_holds (Bool.eq_false_iff.mpr h), if_neg h, Option.map_map,
          Option.map_map]
        rfl

theorem firstMatch_eq_some_iff {predicates : List Predicate} {index : Nat} :
    (firstMatch predicates v).value = some index ↔
      IsLeast {i | HoldsAt v predicates i} index := by
  rw [value_firstMatch, List.findIdx?_eq_some_iff_getElem]
  constructor
  · rintro ⟨hlt, hholds, hbefore⟩
    refine ⟨⟨_, List.getElem?_eq_getElem hlt, hholds⟩, ?_⟩
    rintro i ⟨p, hp, hpv⟩
    refine Nat.le_of_not_lt fun hi => ?_
    rw [List.getElem?_eq_getElem (Nat.lt_trans hi hlt)] at hp
    obtain rfl := Option.some.inj hp
    exact hbefore i hi hpv
  · rintro ⟨⟨p, hp, hpv⟩, hleast⟩
    obtain ⟨hlt, rfl⟩ := List.getElem?_eq_some_iff.mp hp
    refine ⟨hlt, hpv, fun i hi hiv => ?_⟩
    have hle : index ≤ i := hleast ⟨_, List.getElem?_eq_getElem (Nat.lt_trans hi hlt), hiv⟩
    omega

theorem firstMatch_eq_none_iff {predicates : List Predicate} :
    (firstMatch predicates v).value = none ↔ ∀ p ∈ predicates, (p.holds v).value = false := by
  rw [value_firstMatch, List.findIdx?_eq_none_iff]

theorem firstMatch_append {predicates : List Predicate} {index : Nat}
    (h : (firstMatch predicates v).value = some index) (more : List Predicate) :
    (firstMatch (predicates ++ more) v).value = some index := by
  rw [value_firstMatch] at h ⊢
  rw [List.findIdx?_append, h]
  rfl

/-! ## The questions on the way there -/

/-- The predicates that are judged when the scan ends with the index, or with none. -/
def judged (predicates : List Predicate) : Option Nat → List Predicate
  | some index => predicates.take (index + 1)
  | none => predicates

theorem judged_cons (p : Predicate) (rest : List Predicate) (found : Option Nat) :
    judged (p :: rest) (found.map (· + 1)) = p :: judged rest found := by
  cases found <;> rfl

/-- The capabilities that the predicates ask for, in turn. -/
def asked (v : Viewer) (predicates : List Predicate) : List Text :=
  (predicates.filter fun p => p.Asks v).map fun p => Segment.realName p.capability

theorem asked_cons (v : Viewer) (p : Predicate) (rest : List Predicate) :
    asked v (p :: rest) = p.questions v ++ asked v rest := by
  rw [Predicate.questions_eq, asked, List.filter_cons]
  by_cases h : p.Asks v
  · simp [h, asked]
  · simp [h, asked]

theorem questions_eq_asked (v : Viewer) (predicates : List Predicate) :
    questions v predicates = asked v (judged predicates (firstMatch predicates v).value) := by
  induction predicates with
  | nil => rfl
  | cons p rest ih =>
      rw [value_firstMatch, List.findIdx?_cons, questions]
      by_cases h : (p.holds v).value = true
      · rw [if_pos h, if_pos h]
        exact (asked_cons v p []).symm
      · rw [if_neg h, if_neg h, ← value_firstMatch, judged_cons, asked_cons, ih]

theorem questions_append {predicates : List Predicate} {index : Nat}
    (h : (firstMatch predicates v).value = some index) (more : List Predicate) :
    questions v (predicates ++ more) = questions v predicates := by
  obtain ⟨p, hp, -⟩ := (firstMatch_eq_some_iff.mp h).1
  have hlt : index < predicates.length := (List.getElem?_eq_some_iff.mp hp).1
  rw [questions_eq_asked, questions_eq_asked, firstMatch_append h, h, judged, judged,
    List.take_append_of_le_length hlt]

end Rule

/-- The value, and calls of the host for these capabilities and no others. -/
def Traced.Yields {α : Type} (x : Traced α) (value : α) (names : List Text) : Prop :=
  x.value = value ∧ x.calls = names.map Callback.capability

/-- Every way to resolve the list finds the index, if any, and asks for the names. -/
structure Rule.Resolved (v : Viewer) (predicates : List Predicate) (found : Option Nat)
    (names : List Text) : Prop where
  firstMatch : (Rule.firstMatch predicates v).Yields found names
  admits : ((RuleSet.rules predicates).admits v).Yields found.isSome names
  choose : ∀ onMatch onMiss, ((RuleSet.rules predicates).choose onMatch onMiss v).Yields
    (if found.isSome then onMatch else onMiss) names
  choose_list : ∀ onMatch onMiss, (Rule.choose predicates onMatch onMiss v).Yields
    (if found.isSome then onMatch else onMiss) names

theorem Rule.resolved {v : Viewer} (hosted : v.capabilityCheck.isSome = true)
    (predicates : List Predicate) :
    Resolved v predicates (Rule.firstMatch predicates v).value (questions v predicates) := by
  have hadmits : ((RuleSet.rules predicates).admits v).value =
      (Rule.firstMatch predicates v).value.isSome := rfl
  have hcalls : ((RuleSet.rules predicates).admits v).calls =
      (questions v predicates).map Callback.capability := by
    rw [RuleSet.calls_admits, RuleSet.questions, Viewer.checks, if_pos hosted]
  have hchoose : ∀ onMatch onMiss, ((RuleSet.rules predicates).choose onMatch onMiss v).Yields
      (if (Rule.firstMatch predicates v).value.isSome then onMatch else onMiss)
      (questions v predicates) := by
    intro onMatch onMiss
    constructor
    · rw [RuleSet.value_choose, hadmits]
    · rw [RuleSet.calls_choose, hcalls]
  refine ⟨⟨rfl, ?_⟩, ⟨hadmits, hcalls⟩, hchoose, hchoose⟩
  rw [← hcalls, RuleSet.admits, Traced.calls_bind, Traced.calls_pure, List.append_nil]

/-- Every way to resolve a rule list ends at the least index at which a predicate holds.
On the way there the host is asked for the capability of each predicate that is judged by
it, in the order of the list, and for nothing else.  What is appended to a list in which a
predicate holds changes neither the outcome nor the questions, and the absolute sets ask
for nothing. -/
theorem RuleSet.resolutions_agree (predicates : List Predicate) (v : Viewer)
    (hosted : v.capabilityCheck.isSome = true) :
    let found := (Rule.firstMatch predicates v).value
    let names := Rule.asked v (Rule.judged predicates found)
    (∀ index, found = some index ↔ IsLeast {i | Rule.HoldsAt v predicates i} index) ∧
    (found = none ↔ ∀ p ∈ predicates, (p.holds v).value = false) ∧
    Rule.Resolved v predicates found names ∧
    ((∃ p ∈ predicates, (p.holds v).value = true) →
      ∀ more, Rule.Resolved v (predicates ++ more) found names) ∧
    ∀ a : Absolute, ((RuleSet.absolute a).admits v).calls = [] ∧
      ∀ onMatch onMiss, ((RuleSet.absolute a).choose onMatch onMiss v).calls = [] := by
  intro found names
  have hnames : names = Rule.questions v predicates := (Rule.questions_eq_asked v predicates).symm
  refine ⟨fun _ => Rule.firstMatch_eq_some_iff, Rule.firstMatch_eq_none_iff, ?_, ?_, ?_⟩
  · rw [hnames]
    exact Rule.resolved hosted predicates
  · rintro ⟨p, hp, hpv⟩ more
    obtain ⟨index, hfound⟩ : ∃ index, found = some index := by
      rw [← Option.ne_none_iff_exists']
      intro hnone
      have hfalse := Rule.firstMatch_eq_none_iff.mp hnone p hp
      exact Bool.false_ne_true (hfalse.symm.trans hpv)
    have hmore := Rule.resolved hosted (predicates ++ more)
    rw [Rule.firstMatch_append hfound, Rule.questions_append hfound] at hmore
    rw [hnames, hfound]
    exact hmore
  · exact fun a => ⟨rfl, fun _ _ => RuleSet.calls_choose _ _ _ _⟩

/-- A user key and a role that fails ask for nothing; the fifth predicate holds, so the
last one is not looked at. -/
theorem RuleSet.resolutions_agree_hosted :
    let v := ((Viewer.loggedIn "42".toList [] []).withRole "editor".toList).withCapabilityCheck
      fun name => name == "read".toList
    let predicates : List Predicate := [⟨"userid".toList, "7".toList⟩,
      ⟨"author".toList, "read".toList⟩, ⟨[], "manage".toList⟩,
      ⟨"!author".toList, "!re!ad".toList⟩, ⟨"editor".toList, "!edit".toList⟩]
    v.capabilityCheck.isSome = true ∧
      Rule.Resolved v (predicates ++ [⟨[], "read".toList⟩]) (some 4)
        ["manage".toList, "read".toList, "edit".toList] := by
  intro v predicates
  have hfound : (Rule.firstMatch predicates v).value = some 4 := by decide
  have hnames : Rule.asked v (Rule.judged predicates (Rule.firstMatch predicates v).value) =
      ["manage".toList, "read".toList, "edit".toList] := by decide
  have hholds : ∃ p ∈ predicates, (p.holds v).value = true := by decide
  obtain ⟨-, -, -, happend, -⟩ := resolutions_agree predicates v rfl
  have hresolved := happend hholds [⟨[], "read".toList⟩]
  rw [hnames, hfound] at hresolved
  exact ⟨rfl, hresolved⟩

end ContentVisibility
