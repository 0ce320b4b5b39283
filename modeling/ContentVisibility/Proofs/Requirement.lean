import ContentVisibility.Proofs.Listing
import ContentVisibility.Rule.Judgement

/-! # What a rule text means

A requirement on a viewer tests a role, a capability, both, or an identity field,
and each of these tests may be negated.  `Requirement.token` writes a requirement
down, and `Requirement.Holds` says which viewers meet it, with no word about how
rule texts are read.

A token is read back to the segments it was written with (`Requirement.parse_token`)
and a listing to the tokens in it (`Rule.tokens_listing`), so a rule text admits
exactly the viewers that meet one of the requirements it lists
(`RuleSet.admits_listing`). -/
set_option autoImplicit false

namespace ContentVisibility

structure Literal where
  negated : Bool
  name : Text
  listSeparator_not_mem : Rule.listSeparator ∉ name := by decide
  negationMarker_not_mem : Segment.negationMarker ∉ name := by decide
  trimmed : Text.Trimmed name := by decide

structure CapabilityLiteral extends Literal where
  name_ne_nil : name ≠ [] := by decide

/-- The name of a role holds no colon.  Without the sign that tells it apart, a user
key is no role. -/
structure RoleLiteral extends CapabilityLiteral where
  separator_not_mem : Predicate.separator ∉ name := by decide
  ne_text : negated = false → ∀ key : UserKey, name ≠ Keyword.text key

namespace Literal

def segment (l : Literal) : Text :=
  if l.negated then Segment.negationMarker :: l.name else l.name

def Asserts (l : Literal) (test : Prop) : Prop := if l.negated then ¬ test else test

theorem realName_segment (l : Literal) : Segment.realName l.segment = l.name := by
  have hname := Segment.realName_of_not_mem l.negationMarker_not_mem
  rw [segment]
  split
  · rw [Segment.realName_negated, hname]
  · exact hname

theorem beq_expected_segment_iff (l : Literal) (b : Bool) :
    (b == Segment.expected l.segment) = true ↔ l.Asserts (b = true) := by
  rw [beq_iff_eq, segment, Asserts]
  split
  · rw [Segment.expected_negated, Bool.not_eq_true]
  · rw [Segment.expected_of_not_mem l.negationMarker_not_mem]

theorem mem_segment {l : Literal} {c : Char} (h : c ∈ l.segment) :
    c = Segment.negationMarker ∨ c ∈ l.name := by
  rw [segment] at h
  split at h
  · exact List.mem_cons.mp h
  · exact Or.inr h

theorem listSeparator_not_mem_segment (l : Literal) : Rule.listSeparator ∉ l.segment := by
  intro h
  rcases mem_segment h with h | h
  · exact absurd h (by decide)
  · exact l.listSeparator_not_mem h

theorem trimmed_segment (l : Literal) : Text.Trimmed l.segment := by
  rw [segment]
  split
  · exact Text.Trimmed.cons (by decide) l.trimmed
  · exact l.trimmed

/-! ### Tests of one segment -/

variable (l : Literal) (v : Viewer)

theorem roleHolds_segment_iff :
    Segment.roleHolds l.segment v = true ↔ l.Asserts (l.name ∈ v.roles) := by
  rw [Segment.roleHolds, beq_expected_segment_iff, realName_segment, Viewer.hasRole,
    NameSet.contains_iff_mem]

theorem capabilityHolds_segment_iff :
    (Segment.capabilityHolds l.segment v).value = true ↔
      l.Asserts (v.hasCapability l.name = true) := by
  rw [Segment.value_capabilityHolds, beq_expected_segment_iff, realName_segment]

theorem identityHolds_segment_iff (key : UserKey) :
    Segment.identityHolds key l.segment v = true ↔ l.Asserts (v.identity key = l.name) := by
  rw [Segment.identityHolds, beq_expected_segment_iff, realName_segment, beq_iff_eq]

end Literal

theorem CapabilityLiteral.segment_ne_nil (l : CapabilityLiteral) : l.segment ≠ [] := by
  rw [Literal.segment]
  split
  · exact List.cons_ne_nil _ _
  · exact l.name_ne_nil

theorem CapabilityLiteral.isEmpty_segment (l : CapabilityLiteral) : l.segment.isEmpty = false :=
  List.isEmpty_eq_false_iff.mpr l.segment_ne_nil

namespace RoleLiteral

theorem separator_not_mem_segment (r : RoleLiteral) : Predicate.separator ∉ r.segment := by
  intro h
  rcases Literal.mem_segment h with h | h
  · exact absurd h (by decide)
  · exact r.separator_not_mem h

theorem segment_ne_text (r : RoleLiteral) (key : UserKey) : r.segment ≠ Keyword.text key := by
  rw [Literal.segment]
  split
  · exact key.negated_ne_text r.name
  · rename_i hnegated
    exact r.ne_text (Bool.eq_false_iff.mpr hnegated) key

theorem kind_segment (r : RoleLiteral) (capability : Text) :
    Predicate.kind ⟨r.segment, capability⟩ = .roleCapability :=
  Predicate.kind_of_ne_text r.segment_ne_text capability

end RoleLiteral

inductive Requirement where
  | role (r : RoleLiteral)
  | capability (c : CapabilityLiteral)
  | both (r : RoleLiteral) (c : CapabilityLiteral)
  | identity (key : UserKey) (value : Literal)

namespace Requirement

def token : Requirement → Text
  | .role r => r.segment
  | .capability c => Predicate.separator :: c.segment
  | .both r c => r.segment ++ Predicate.separator :: c.segment
  | .identity key value => Keyword.text key ++ Predicate.separator :: value.segment

def Holds (v : Viewer) : Requirement → Prop
  | .role r => r.Asserts (r.name ∈ v.roles)
  | .capability c => c.Asserts (v.hasCapability c.name = true)
  | .both r c => r.Asserts (r.name ∈ v.roles) ∧ c.Asserts (v.hasCapability c.name = true)
  | .identity key value => value.Asserts (v.identity key = value.name)

def predicate : Requirement → Predicate
  | .role r => ⟨r.segment, []⟩
  | .capability c => ⟨[], c.segment⟩
  | .both r c => ⟨r.segment, c.segment⟩
  | .identity key value => ⟨Keyword.text key, value.segment⟩

theorem parse_token (q : Requirement) : Predicate.parse q.token = q.predicate := by
  cases q with
  | role r => exact Predicate.parse_of_not_mem r.separator_not_mem_segment
  | capability c => exact Predicate.parse_append List.not_mem_nil c.segment
  | both r c => exact Predicate.parse_append r.separator_not_mem_segment c.segment
  | identity key value =>
      exact Predicate.parse_append (by cases key <;> decide) value.segment

theorem holds_predicate_iff (q : Requirement) (v : Viewer) :
    (q.predicate.holds v).value = true ↔ q.Holds v := by
  cases q with
  | role r =>
      rw [predicate, Predicate.holds_eq, r.kind_segment]
      simp only [r.isEmpty_segment, List.isEmpty_nil]
      exact r.roleHolds_segment_iff v
  | capability c =>
      rw [predicate, Predicate.holds_eq, Predicate.kind_of_ne_text UserKey.nil_ne_text]
      simp only [c.isEmpty_segment, List.isEmpty_nil]
      exact c.capabilityHolds_segment_iff v
  | both r c =>
      rw [predicate, Predicate.holds_eq, r.kind_segment]
      simp only [r.isEmpty_segment, c.isEmpty_segment, Traced.value_both, Traced.value_pure,
        Bool.and_eq_true]
      exact and_congr (r.roleHolds_segment_iff v) (c.capabilityHolds_segment_iff v)
  | identity key value =>
      rw [predicate, Predicate.holds_user]
      exact value.identityHolds_segment_iff v key

theorem token_ne_nil (q : Requirement) : q.token ≠ [] := by
  cases q with
  | role r => exact r.segment_ne_nil
  | capability c => exact List.cons_ne_nil _ _
  | both r c => exact List.append_ne_nil_of_right_ne_nil _ (List.cons_ne_nil _ _)
  | identity key value => exact List.append_ne_nil_of_right_ne_nil _ (List.cons_ne_nil _ _)

theorem listSeparator_not_mem_token (q : Requirement) : Rule.listSeparator ∉ q.token := by
  have hseparator : Rule.listSeparator ≠ Predicate.separator := by decide
  cases q with
  | role r => exact r.listSeparator_not_mem_segment
  | capability c =>
      exact List.not_mem_cons_of_ne_of_not_mem hseparator c.listSeparator_not_mem_segment
  | both r c =>
      refine List.not_mem_append r.listSeparator_not_mem_segment ?_
      exact List.not_mem_cons_of_ne_of_not_mem hseparator c.listSeparator_not_mem_segment
  | identity key value =>
      refine List.not_mem_append (by cases key <;> decide) ?_
      exact List.not_mem_cons_of_ne_of_not_mem hseparator value.listSeparator_not_mem_segment

theorem trimmed_token (q : Requirement) : Text.Trimmed q.token := by
  have hseparator : Text.isBlank Predicate.separator = false := by decide
  cases q with
  | role r => exact r.trimmed_segment
  | capability c => exact c.trimmed_segment.cons hseparator
  | both r c => exact r.trimmed_segment.append (c.trimmed_segment.cons hseparator)
  | identity key value =>
      have hkey : Text.Trimmed (Keyword.text key) := by cases key <;> decide
      exact hkey.append (value.trimmed_segment.cons hseparator)

end Requirement

/-! ## Listings -/

namespace Rule

structure Entry where
  before : Text
  requirement : Requirement
  after : Text
  blank_before : before.all Text.isBlank = true := by decide
  blank_after : after.all Text.isBlank = true := by decide

def Entry.text (e : Entry) : Text := e.before ++ (e.requirement.token ++ e.after)

def listing (entries : List Entry) : Text := Text.joined listSeparator (entries.map Entry.text)

theorem Entry.trim_text (e : Entry) : Text.trim e.text = e.requirement.token :=
  Text.trim_padded e.requirement.trimmed_token (List.all_eq_true.mp e.blank_before)
    (List.all_eq_true.mp e.blank_after)

theorem Entry.listSeparator_not_mem_text (e : Entry) : listSeparator ∉ e.text := by
  have hblank : Text.isBlank listSeparator ≠ true := by decide
  have hbefore : listSeparator ∉ e.before :=
    fun h => hblank (List.all_eq_true.mp e.blank_before _ h)
  have hafter : listSeparator ∉ e.after :=
    fun h => hblank (List.all_eq_true.mp e.blank_after _ h)
  exact List.not_mem_append hbefore
    (List.not_mem_append e.requirement.listSeparator_not_mem_token hafter)

theorem Entry.text_ne_nil (e : Entry) : e.text ≠ [] :=
  List.append_ne_nil_of_right_ne_nil _
    (List.append_ne_nil_of_left_ne_nil e.requirement.token_ne_nil _)

theorem tokens_listing (entries : List Entry) :
    tokens (listing entries) = entries.map fun e => e.requirement.token := by
  have hne : entries.map Entry.text ≠ [[]] := by
    intro hsingle
    have hmem : [] ∈ entries.map Entry.text := hsingle ▸ List.mem_singleton_self _
    obtain ⟨e, -, htext⟩ := List.mem_map.mp hmem
    exact e.text_ne_nil htext
  have hparts : ∀ t ∈ entries.map Entry.text, listSeparator ∉ t := by
    intro t ht
    obtain ⟨e, -, rfl⟩ := List.mem_map.mp ht
    exact e.listSeparator_not_mem_text
  rw [listing, tokens_joined hne hparts, List.map_map]
  exact List.map_congr_left fun e _ => e.trim_text

theorem ofSpec_listing (entries : List Entry) :
    ofSpec (listing entries) = entries.map fun e => e.requirement.predicate := by
  rw [ofSpec, tokens_listing, ofTokens, List.map_map]
  exact List.map_congr_left fun e _ => e.requirement.parse_token

end Rule

/-- A listing that is none of the absolute words admits the viewers that meet one of
its requirements. -/
theorem RuleSet.admits_listing (entries : List Rule.Entry) (v : Viewer)
    (relative : ∀ a : Absolute, Rule.listing entries ≠ Keyword.text a) :
    ((RuleSet.parse (Rule.listing entries)).admits v).value = true ↔
      ∃ e ∈ entries, e.requirement.Holds v := by
  rw [parse, ofParts_of_ne_text relative, value_admits_rules, Rule.ofSpec_listing]
  constructor
  · intro h
    obtain ⟨p, hp, hholds⟩ := h
    obtain ⟨e, he, rfl⟩ := List.mem_map.mp hp
    exact ⟨e, he, (e.requirement.holds_predicate_iff v).mp hholds⟩
  · intro h
    obtain ⟨e, he, hholds⟩ := h
    exact ⟨_, List.mem_map.mpr ⟨e, he, rfl⟩, (e.requirement.holds_predicate_iff v).mpr hholds⟩

/-- The second of two padded requirements lets the viewer in: the role `userid` that the
first one wants to be absent is there. -/
theorem RuleSet.admits_listing_padded :
    let role : RoleLiteral := { negated := true, name := "userid".toList, ne_text := nofun }
    let capability : CapabilityLiteral := { negated := false, name := "edit:posts".toList }
    let email : Literal := { negated := true, name := "a:b@c".toList }
    let entries : List Rule.Entry := [
      { before := "\u3000".toList, requirement := .both role capability, after := [] },
      { before := " ".toList, requirement := .identity .email email, after := "\t".toList }]
    let v := (Viewer.loggedIn "42".toList "alice".toList "a@c".toList).withRole "userid".toList
    Rule.listing entries = "\u3000!userid:edit:posts, useremail:!a:b@c\t".toList ∧
      (∀ a : Absolute, Rule.listing entries ≠ Keyword.text a) ∧
      ((RuleSet.parse (Rule.listing entries)).admits v).value = true := by
  intro role capability email entries v
  have relative : ∀ a : Absolute, Rule.listing entries ≠ Keyword.text a := by
    intro a
    cases a <;> decide
  have hemail : email.Asserts (v.identity .email = email.name) := by
    show ¬ "a@c".toList = "a:b@c".toList
    decide
  exact ⟨by decide, relative, (RuleSet.admits_listing entries v relative).mpr
    ⟨_, List.mem_cons_of_mem _ List.mem_cons_self, hemail⟩⟩

end ContentVisibility
