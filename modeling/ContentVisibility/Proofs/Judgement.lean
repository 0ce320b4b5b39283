import ContentVisibility.Proofs.Text.Parts
import ContentVisibility.Rule.Judgement

/-! # What a judgement looks up

The names that a rule looks up stand in the rule as it is written, once every `!`
is taken out.  Two viewers that are the same person and agree on the names of a
text (`AgreeOn`) are therefore admitted alike by the rule set that the text
stands for (`RuleSet.value_admits_parse_congr`). -/
set_option autoImplicit false

namespace ContentVisibility

theorem NameSet.contains_insert_of_ne {names : NameSet} {name n : Text} (h : n ≠ name) :
    (names.insert name).contains n = names.contains n := by
  rw [Bool.eq_iff_iff, contains_iff_mem, contains_iff_mem, mem_insert]
  constructor
  · intro hmem
    exact hmem.resolve_left h
  · intro hmem
    exact Or.inr hmem

namespace Viewer

structure SamePerson (v w : Viewer) : Prop where
  isLoggedIn : v.isLoggedIn = w.isLoggedIn
  userId : v.userId = w.userId
  username : v.username = w.username
  userEmail : v.userEmail = w.userEmail

theorem SamePerson.symm {v w : Viewer} (h : SamePerson v w) : SamePerson w v :=
  ⟨h.isLoggedIn.symm, h.userId.symm, h.username.symm, h.userEmail.symm⟩

theorem SamePerson.identity {v w : Viewer} (h : SamePerson v w) (key : UserKey) :
    v.identity key = w.identity key := by
  cases key with
  | id => exact h.userId
  | name => exact h.username
  | email => exact h.userEmail

/-- The viewers have the same of the roles and capabilities that can be named in
the text. -/
def AgreeOn (v w : Viewer) (s : Text) : Prop :=
  ∀ name, name <:+: Segment.realName s →
    v.hasRole name = w.hasRole name ∧ v.hasCapability name = w.hasCapability name

theorem AgreeOn.of_isInfix {v w : Viewer} {s t : Text} (h : AgreeOn v w s) (ht : t <:+: s) :
    AgreeOn v w t := by
  intro name hname
  have hreal : Segment.realName t <:+: Segment.realName s := ht.filter _
  exact h name (hname.trans hreal)

section Grant
variable {v : Viewer} {name s : Text}

theorem agreeOn_withRole (h : ¬ name <:+: Segment.realName s) : (v.withRole name).AgreeOn v s := by
  intro n hn
  have hne : n ≠ name := fun heq => h (heq ▸ hn)
  exact ⟨NameSet.contains_insert_of_ne hne, rfl⟩

theorem agreeOn_withCapability (h : ¬ name <:+: Segment.realName s) :
    (v.withCapability name).AgreeOn v s := by
  intro n hn
  have hne : n ≠ name := fun heq => h (heq ▸ hn)
  refine ⟨rfl, ?_⟩
  simp only [hasCapability, withCapability, NameSet.contains_insert_of_ne hne]

theorem agreeOn_withCapabilityCheck {check : Text → Bool}
    (h : ∀ n, n <:+: Segment.realName s → check n = v.hasCapability n) :
    (v.withCapabilityCheck check).AgreeOn v s := fun n hn => ⟨rfl, h n hn⟩

end Grant

end Viewer

theorem Predicate.isInfix_parse (token : Text) :
    (parse token).role <:+: token ∧ (parse token).capability <:+: token := by
  constructor
  · exact (List.takeWhile_prefix _).isInfix
  · exact (List.drop_suffix 1 _).isInfix.trans (List.dropWhile_suffix _).isInfix

theorem Rule.isInfix_of_mem_tokens {spec token : Text} (h : token ∈ tokens spec) :
    token <:+: spec := by
  rw [tokens] at h
  split at h
  · exact absurd h List.not_mem_nil
  · obtain ⟨piece, hpiece, rfl⟩ := List.mem_map.mp h
    exact (Text.trim_isInfix piece).trans (Text.isInfix_of_mem_pieces hpiece)

theorem Rule.isInfix_of_mem_ofSpec {spec : Text} {p : Predicate} (h : p ∈ ofSpec spec) :
    p.role <:+: spec ∧ p.capability <:+: spec := by
  obtain ⟨token, htoken, rfl⟩ := List.mem_map.mp h
  have hspec := isInfix_of_mem_tokens htoken
  obtain ⟨hrole, hcapability⟩ := Predicate.isInfix_parse token
  exact ⟨hrole.trans hspec, hcapability.trans hspec⟩

/-! ## Judgements -/

section Congruence
variable {v w : Viewer}

theorem Segment.roleHolds_congr {segment : Text} (h : v.AgreeOn w segment) :
    roleHolds segment v = roleHolds segment w := by
  rw [roleHolds, roleHolds, (h _ List.infix_rfl).1]

theorem Segment.value_capabilityHolds_congr {segment : Text} (h : v.AgreeOn w segment) :
    (capabilityHolds segment v).value = (capabilityHolds segment w).value := by
  rw [value_capabilityHolds, value_capabilityHolds, (h _ List.infix_rfl).2]

theorem Segment.identityHolds_congr (same : v.SamePerson w) (key : UserKey) (segment : Text) :
    identityHolds key segment v = identityHolds key segment w := by
  rw [identityHolds, identityHolds, same.identity key]

/-- What holds for one viewer holds for another of the same identity if each segment
that is tested does. -/
theorem Predicate.value_holds_of_segments (same : v.SamePerson w) {p : Predicate}
    (role : p.kind = .roleCapability → p.role ≠ [] →
      Segment.roleHolds p.role v = true → Segment.roleHolds p.role w = true)
    (capability : p.kind = .roleCapability → p.capability ≠ [] →
      (Segment.capabilityHolds p.capability v).value = true →
        (Segment.capabilityHolds p.capability w).value = true) :
    (p.holds v).value = true → (p.holds w).value = true := by
  cases hkind : p.kind with
  | user key =>
      rw [holds_eq, holds_eq, hkind]
      exact (Segment.identityHolds_congr same key p.capability).symm.trans
  | roleCapability =>
      rw [value_holds hkind, value_holds hkind]
      simp only [Bool.and_eq_true, Bool.or_eq_true, List.isEmpty_iff]
      rintro ⟨⟨hgiven, hrole⟩, hcapability⟩
      refine ⟨⟨hgiven, ?_⟩, ?_⟩
      · by_cases hempty : p.role = []
        · exact Or.inl hempty
        · exact Or.inr (role hkind hempty (hrole.resolve_left hempty))
      · by_cases hempty : p.capability = []
        · exact Or.inl hempty
        · exact Or.inr (capability hkind hempty (hcapability.resolve_left hempty))

theorem Predicate.value_holds_congr (same : v.SamePerson w) {p : Predicate}
    (hrole : v.AgreeOn w p.role) (hcapability : v.AgreeOn w p.capability) :
    (p.holds v).value = (p.holds w).value := by
  have hr := Segment.roleHolds_congr hrole
  have hc := Segment.value_capabilityHolds_congr hcapability
  rw [Bool.eq_iff_iff]
  constructor
  · exact value_holds_of_segments same (fun _ _ => hr.symm.trans) fun _ _ => hc.symm.trans
  · exact value_holds_of_segments same.symm (fun _ _ => hr.trans) fun _ _ => hc.trans

/-! ### Rule sets -/

theorem Absolute.admits_congr (same : v.SamePerson w) (a : Absolute) : a.admits v = a.admits w := by
  cases a with
  | everyone => rfl
  | loggedIn => exact same.isLoggedIn
  | loggedOut => exact congrArg (!·) same.isLoggedIn

def RuleSet.predicates : RuleSet → List Predicate
  | .absolute _ => []
  | .rules ps => ps

theorem RuleSet.mem_ofSpec_of_mem_predicates {spec : Text} {p : Predicate}
    (h : p ∈ (parse spec).predicates) : p ∈ Rule.ofSpec spec := by
  rw [parse, ofParts] at h
  split at h
  · exact absurd h List.not_mem_nil
  · exact h

theorem RuleSet.value_admits_of_predicates (same : v.SamePerson w) {set : RuleSet}
    (h : ∀ p ∈ set.predicates, (p.holds v).value = true → (p.holds w).value = true) :
    (set.admits v).value = true → (set.admits w).value = true := by
  cases set with
  | absolute a => exact (a.admits_congr same).symm.trans
  | rules ps =>
      rw [value_admits_rules, value_admits_rules]
      rintro ⟨p, hp, hholds⟩
      exact ⟨p, hp, h p hp hholds⟩

theorem RuleSet.value_admits_parse_congr (same : v.SamePerson w) {spec : Text}
    (h : v.AgreeOn w spec) : ((parse spec).admits v).value = ((parse spec).admits w).value := by
  have hholds : ∀ p ∈ (parse spec).predicates, (p.holds v).value = (p.holds w).value := by
    intro p hp
    obtain ⟨hrole, hcapability⟩ := Rule.isInfix_of_mem_ofSpec (mem_ofSpec_of_mem_predicates hp)
    exact Predicate.value_holds_congr same (h.of_isInfix hrole) (h.of_isInfix hcapability)
  rw [Bool.eq_iff_iff]
  constructor
  · exact value_admits_of_predicates same fun p hp => (hholds p hp).symm.trans
  · exact value_admits_of_predicates same.symm fun p hp => (hholds p hp).trans

end Congruence

end ContentVisibility
