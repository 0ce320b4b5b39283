import ContentVisibility.Rule.Judgement

/-! # What the host is asked

A predicate asks for its capability unless its role segment has failed already, and
a scan asks for the predicates up to the first that holds.  `RuleSet.calls_admits`
ties the names to the calls of a host that answers the questions. -/
set_option autoImplicit false

namespace ContentVisibility

/-- The capabilities that are looked up for the predicate. -/
def Predicate.questions (p : Predicate) (v : Viewer) : List Text :=
  match p.kind with
  | .user _ => []
  | .roleCapability =>
      if !p.capability.isEmpty && (p.role.isEmpty || Segment.roleHolds p.role v) then
        [Segment.realName p.capability]
      else []

def Rule.questions (v : Viewer) : List Predicate → List Text
  | [] => []
  | p :: rest => p.questions v ++ if (p.holds v).value then [] else questions v rest

def RuleSet.questions (set : RuleSet) (v : Viewer) : List Text :=
  match set with
  | .absolute _ => []
  | .rules predicates => Rule.questions v predicates

/-- The calls for the names: a viewer without a check of the host asks nobody. -/
def Viewer.checks (v : Viewer) (names : List Text) : List Callback :=
  if v.capabilityCheck.isSome then names.map .capability else []

namespace Viewer

@[simp] theorem checks_nil (v : Viewer) : v.checks [] = [] := by
  simp [checks]

theorem checks_append (v : Viewer) (names more : List Text) :
    v.checks (names ++ more) = v.checks names ++ v.checks more := by
  rw [checks, checks, checks]
  split
  · exact List.map_append
  · rfl

theorem eq_capability_of_mem_checks {v : Viewer} {names : List Text} {c : Callback}
    (h : c ∈ v.checks names) : ∃ name ∈ names, c = .capability name := by
  rw [checks] at h
  split at h
  · obtain ⟨name, hname, rfl⟩ := List.mem_map.mp h
    exact ⟨name, hname, rfl⟩
  · exact absurd h List.not_mem_nil

theorem calls_askCapability (v : Viewer) (name : Text) :
    (v.askCapability name).calls = v.checks [name] := by
  rw [Traced.calls, events_askCapability, checks]
  split <;> rfl

end Viewer

section Calls
variable (v : Viewer)

theorem Segment.calls_capabilityHolds (segment : Text) :
    (capabilityHolds segment v).calls = v.checks [realName segment] := by
  rw [capabilityHolds, Traced.calls_bind, Viewer.calls_askCapability, Traced.calls_pure,
    List.append_nil]

theorem Predicate.calls_holds (p : Predicate) : (p.holds v).calls = v.checks (p.questions v) := by
  rw [holds_eq, questions]
  cases p.kind with
  | user key => exact v.checks_nil.symm
  | roleCapability =>
      cases p.role.isEmpty with
      | false =>
          cases p.capability.isEmpty with
          | false =>
              -- the capability is looked up only once the role has held
              simp only [Traced.calls_both, Traced.calls_pure, Traced.value_pure,
                Segment.calls_capabilityHolds]
              cases Segment.roleHolds p.role v with
              | false => exact v.checks_nil.symm
              | true => rfl
          | true => exact v.checks_nil.symm
      | true =>
          cases p.capability.isEmpty with
          | false => exact Segment.calls_capabilityHolds v p.capability
          | true => exact v.checks_nil.symm

theorem Rule.calls_scan (predicates : List Predicate) :
    (scan v predicates).calls = v.checks (questions v predicates) := by
  induction predicates with
  | nil => exact v.checks_nil.symm
  | cons p rest ih =>
      have hp := p.calls_holds v
      cases h : (p.holds v).value with
      | true =>
          rw [scan_cons_of_holds h, questions, if_pos h, List.append_nil]
          exact hp
      | false =>
          simp only [questions, h, Bool.false_eq_true, if_false, Viewer.checks_append]
          rw [scan_cons_of_not_holds h, ← hp, ← ih]
          exact List.filterMap_append

theorem RuleSet.calls_admits (set : RuleSet) :
    (set.admits v).calls = v.checks (set.questions v) := by
  cases set with
  | absolute a => exact v.checks_nil.symm
  | rules predicates =>
      simp only [admits, Rule.firstMatch, Traced.calls_bind, Traced.calls_pure, List.append_nil]
      exact Rule.calls_scan v predicates

end Calls

end ContentVisibility
