import ContentVisibility.Rule.RuleSet
import ContentVisibility.Specification

/-! # Judging a viewer

A segment holds when the look-up of its name has the outcome that its sign asks
for.  A predicate on a user key compares that identity field; any other
predicate holds when each segment that is given holds, the role being looked up
first.  A rule list is scanned until a predicate holds. -/
set_option autoImplicit false

namespace ContentVisibility

/-! ## Segments -/

namespace Segment

def roleHolds (segment : Text) (v : Viewer) : Bool :=
  v.hasRole (realName segment) == expected segment

def capabilityHolds (segment : Text) (v : Viewer) : Traced Bool := do
  return (← v.askCapability (realName segment)) == expected segment

def identityHolds (key : UserKey) (segment : Text) (v : Viewer) : Bool :=
  (v.identity key == realName segment) == expected segment

theorem value_capabilityHolds (segment : Text) (v : Viewer) :
    (capabilityHolds segment v).value = (v.hasCapability (realName segment) == expected segment) := by
  rw [capabilityHolds, Traced.value_bind, Traced.value_pure, Viewer.value_askCapability]

/-- A key that is not a user key holds for nobody, and is reported. -/
def namedIdentityHolds (key segment : Text) (v : Viewer) : Traced Bool :=
  match UserKey.read key with
  | .ok key => pure (identityHolds key segment v)
  | .error e => do
      Traced.log (.unsupportedUserKey e)
      pure false

end Segment

/-! ## Criteria and predicates -/

/-- What is judged by a single look-up, or by none. -/
inductive Criterion where
  | always
  | loggedIn
  | role (segment : Text)
  | capability (segment : Text)
  | identity (key : UserKey) (segment : Text)
  deriving DecidableEq

def Criterion.holds (c : Criterion) (v : Viewer) : Traced Bool :=
  match c with
  | .always => pure true
  | .loggedIn => pure v.isLoggedIn
  | .role segment => pure (Segment.roleHolds segment v)
  | .capability segment => Segment.capabilityHolds segment v
  | .identity key segment => pure (Segment.identityHolds key segment v)

instance : Specification Criterion := ⟨Criterion.holds⟩

namespace Predicate

def holds (p : Predicate) (v : Viewer) : Traced Bool :=
  match p.kind with
  | .user key => (Criterion.identity key p.capability).holds v
  | .roleCapability =>
      match p.role.isEmpty, p.capability.isEmpty with
      | false, false =>
          let role : Clause Criterion := ⟨.role p.role⟩
          let capability : Clause Criterion := ⟨.capability p.capability⟩
          Specification.holds (role &&& capability) v
      | true, false => (Criterion.capability p.capability).holds v
      | false, true => (Criterion.role p.role).holds v
      | true, true => pure false

instance : Specification Predicate := ⟨holds⟩

/-- The predicate as look-ups: the capability is asked for only if the role has held. -/
theorem holds_eq (p : Predicate) (v : Viewer) :
    p.holds v =
      match p.kind with
      | .user key => pure (Segment.identityHolds key p.capability v)
      | .roleCapability =>
          match p.role.isEmpty, p.capability.isEmpty with
          | false, false =>
              Traced.both (pure (Segment.roleHolds p.role v))
                (Segment.capabilityHolds p.capability v)
          | true, false => Segment.capabilityHolds p.capability v
          | false, true => pure (Segment.roleHolds p.role v)
          | true, true => pure false := rfl

theorem holds_user (key : UserKey) (value : Text) (v : Viewer) :
    holds ⟨Keyword.text key, value⟩ v = pure (Segment.identityHolds key value v) := by
  rw [holds_eq, kind, Keyword.read?_text]

/-- A predicate that is not about a user key holds when it has a segment and each segment
that it has holds. -/
theorem value_holds {p : Predicate} (h : p.kind = .roleCapability) (v : Viewer) :
    (p.holds v).value = (!p.isEmpty && (p.role.isEmpty || Segment.roleHolds p.role v) &&
      (p.capability.isEmpty || (Segment.capabilityHolds p.capability v).value)) := by
  rw [holds_eq, h, isEmpty]
  cases p.role.isEmpty <;> cases p.capability.isEmpty <;> simp

end Predicate

/-! ## Rule lists -/

namespace Rule

/-- The first predicate that holds, with its place in the list. -/
def scan (v : Viewer) : List Predicate → Traced (Option (Nat × Predicate))
  | [] => pure none
  | p :: rest => do
      if ← p.holds v then pure (some (0, p))
      else return (← scan v rest).map fun (index, q) => (index + 1, q)

def firstMatch (predicates : List Predicate) (v : Viewer) : Traced (Option Nat) := do
  return (← scan v predicates).map (·.1)

def choose (predicates : List Predicate) (onMatch onMiss : Text) (v : Viewer) : Traced Text := do
  match ← scan v predicates with
  | some (index, p) =>
      Traced.log (.ruleMatched p index)
      pure onMatch
  | none =>
      Traced.log (.noRuleMatched predicates.length)
      pure onMiss

end Rule

/-! ## Rule sets -/

def Absolute.admits (a : Absolute) (v : Viewer) : Bool :=
  match a with
  | .everyone => true
  | .loggedIn => v.isLoggedIn
  | .loggedOut => !v.isLoggedIn

namespace RuleSet

def admits (set : RuleSet) (v : Viewer) : Traced Bool :=
  match set with
  | .absolute a => pure (a.admits v)
  | .rules predicates => do return (← Rule.firstMatch predicates v).isSome

def choose (set : RuleSet) (onMatch onMiss : Text) (v : Viewer) : Traced Text :=
  match set with
  | .absolute a => do
      let matched := a.admits v
      Traced.log (.absoluteResolved a matched)
      pure (if matched then onMatch else onMiss)
  | .rules predicates => Rule.choose predicates onMatch onMiss v

end RuleSet

/-! ## What the scan finds -/

namespace Rule

theorem scan_cons_of_holds {p : Predicate} {v : Viewer} (h : (p.holds v).value = true)
    (rest : List Predicate) :
    scan v (p :: rest) = ⟨some (0, p), (p.holds v).events⟩ := by
  apply Traced.ext <;> simp [scan, h]

theorem scan_cons_of_not_holds {p : Predicate} {v : Viewer} (h : (p.holds v).value = false)
    (rest : List Predicate) :
    scan v (p :: rest) =
      ⟨(scan v rest).value.map fun (index, q) => (index + 1, q),
       (p.holds v).events ++ (scan v rest).events⟩ := by
  apply Traced.ext <;> simp [scan, h]

theorem isSome_scan_iff {v : Viewer} {predicates : List Predicate} :
    (scan v predicates).value.isSome = true ↔ ∃ p ∈ predicates, (p.holds v).value = true := by
  induction predicates with
  | nil => simp [scan]
  | cons p rest ih =>
      cases h : (p.holds v).value with
      | true => simp [scan_cons_of_holds h, h]
      | false => simp [scan_cons_of_not_holds h, h, ih]

end Rule

namespace RuleSet

theorem value_admits_rules {predicates : List Predicate} {v : Viewer} :
    ((RuleSet.rules predicates).admits v).value = true ↔
      ∃ p ∈ predicates, (p.holds v).value = true := by
  rw [← Rule.isSome_scan_iff]
  simp [admits, Rule.firstMatch]

/-- The text chosen is the first exactly when the set admits the viewer. -/
theorem value_choose (set : RuleSet) (onMatch onMiss : Text) (v : Viewer) :
    (set.choose onMatch onMiss v).value =
      if (set.admits v).value then onMatch else onMiss := by
  cases set with
  | absolute a => rfl
  | rules predicates =>
      simp only [choose, Rule.choose, admits, Rule.firstMatch, Traced.value_bind,
        Traced.value_pure, Option.isSome_map]
      cases (Rule.scan v predicates).value <;> rfl

end RuleSet

end ContentVisibility
