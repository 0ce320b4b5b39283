import ContentVisibility.Condition
import ContentVisibility.Proofs.Scan

/-! # What a formula says and asks

An expression says of a viewer what its connectives make of its leaves
(`Expression.Says`).  How it is evaluated, and what the host is asked on the way, is a
relation of its own: from the left, and the right side of a conjunction only once the
left side has held (`Expression.Evaluates`).  Neither looks at the notation.  The
condition that the expression writes, over specifications or over clauses, yields what
the expression says and asks what its one evaluation asks, and expressions that differ
in notation alone write conditions that are judged alike (`Formula.condition_yields`). -/
set_option autoImplicit false

namespace ContentVisibility

theorem UserKey.read_text (key : UserKey) : UserKey.read (Keyword.text key) = .ok key := by
  rw [read, Keyword.read?_text]

namespace Condition

variable {style : Connective}

theorem holds_and (a b : Condition style) (v : Viewer) :
    (a.and b).holds v = Traced.both (a.holds v) (b.holds v) := by
  cases a <;> cases b <;> rfl

theorem holds_not (a : Condition style) (v : Viewer) :
    a.not.holds v = do return !(← a.holds v) := by
  cases a <;> rfl

theorem holds_wrap (a : Condition .function) (v : Viewer) : a.wrap.holds v = a.holds v := by
  cases a
  rfl

theorem holds_ofOperand (a : Condition .operator) (v : Viewer) :
    a.ofOperand.holds v = a.holds v := by
  cases a
  rfl

end Condition

namespace Expression

def Readable : {style : Connective} → Expression style → Prop
  | _, .user key _ => ∃ k : UserKey, key = Keyword.text k
  | _, .both a b => a.Readable ∧ b.Readable
  | _, .negation a => a.Readable
  | _, .clause a => a.Readable
  | _, .ofClause a => a.Readable
  | _, _ => True

theorem map_eq_ok_iff {α β : Type 1} {f : α → β} {x : Except UnknownUserKey α} {b : β} :
    f <$> x = .ok b ↔ ∃ a, x = .ok a ∧ b = f a := by
  cases x with
  | error e => exact iff_of_false nofun nofun
  | ok a =>
      constructor
      · rintro ⟨⟩
        exact ⟨a, rfl, rfl⟩
      · rintro ⟨_, ⟨⟩, rfl⟩
        rfl

theorem condition_user (key : UserKey) (segment : Text) :
    (user (Keyword.text key) segment).condition =
      .ok (Condition.plain (Criterion.identity key segment)) := by
  rw [condition, UserKey.read_text]

section Written
variable {style : Connective} {a b : Expression style}

theorem condition_both_iff {c : Condition style} :
    (both a b).condition = .ok c ↔
      ∃ left right, a.condition = .ok left ∧ b.condition = .ok right ∧ c = left.and right := by
  rw [condition]
  cases a.condition with
  | error e => exact iff_of_false nofun nofun
  | ok left =>
      cases b.condition with
      | error e => exact iff_of_false nofun nofun
      | ok right =>
          constructor
          · rintro ⟨⟩
            exact ⟨left, right, rfl, rfl, rfl⟩
          · rintro ⟨_, _, ⟨⟩, ⟨⟩, rfl⟩
            rfl

theorem condition_negation_iff {c : Condition style} :
    (negation a).condition = .ok c ↔ ∃ inner, a.condition = .ok inner ∧ c = inner.not := by
  rw [condition, map_eq_ok_iff]

theorem condition_clause_iff {f : Formula} {c : Condition .operator} :
    (clause f).condition = .ok c ↔ ∃ inner, f.condition = .ok inner ∧ c = inner.wrap := by
  rw [condition, map_eq_ok_iff]

theorem condition_ofClause_iff {e : Expression .operator} {c : Condition .function} :
    (ofClause e).condition = .ok c ↔ ∃ inner, e.condition = .ok inner ∧ c = inner.ofOperand := by
  rw [condition, map_eq_ok_iff]

theorem Readable.exists_condition {e : Expression style} (h : e.Readable) :
    ∃ c, e.condition = .ok c := by
  induction e with
  | user key segment =>
      obtain ⟨k, rfl⟩ := h
      exact ⟨_, condition_user k segment⟩
  | both a b iha ihb =>
      obtain ⟨left, hleft⟩ := iha h.1
      obtain ⟨right, hright⟩ := ihb h.2
      exact ⟨_, condition_both_iff.mpr ⟨left, right, hleft, hright, rfl⟩⟩
  | negation a ih =>
      obtain ⟨inner, hinner⟩ := ih h
      exact ⟨_, condition_negation_iff.mpr ⟨inner, hinner, rfl⟩⟩
  | clause a ih =>
      obtain ⟨inner, hinner⟩ := ih h
      exact ⟨_, condition_clause_iff.mpr ⟨inner, hinner, rfl⟩⟩
  | ofClause a ih =>
      obtain ⟨inner, hinner⟩ := ih h
      exact ⟨_, condition_ofClause_iff.mpr ⟨inner, hinner, rfl⟩⟩
  | _ => exact ⟨_, rfl⟩

end Written

/-- The two differ in notation alone: in the style of their connectives, and in where
conditions are wrapped. -/
inductive Restyled : {style style' : Connective} → Expression style → Expression style' → Prop
  | refl {style : Connective} (a : Expression style) : Restyled a a
  | both {style style' : Connective} {a b : Expression style} {a' b' : Expression style'} :
      Restyled a a' → Restyled b b' → Restyled (.both a b) (.both a' b')
  | negation {style style' : Connective} {a : Expression style} {a' : Expression style'} :
      Restyled a a' → Restyled (.negation a) (.negation a')
  | clause_left {style' : Connective} {a : Formula} {a' : Expression style'} :
      Restyled a a' → Restyled (.clause a) a'
  | clause_right {style : Connective} {a : Expression style} {a' : Formula} :
      Restyled a a' → Restyled a (.clause a')
  | ofClause_left {style' : Connective} {a : Expression .operator} {a' : Expression style'} :
      Restyled a a' → Restyled (.ofClause a) a'
  | ofClause_right {style : Connective} {a : Expression style} {a' : Expression .operator} :
      Restyled a a' → Restyled a (.ofClause a')

theorem Restyled.exists_condition {style style' : Connective} {e : Expression style}
    {e' : Expression style'} (h : e.Restyled e') :
    ∀ {c : Condition style}, e.condition = .ok c →
      ∃ d, e'.condition = .ok d ∧ ∀ v, d.holds v = c.holds v := by
  induction h with
  | refl a =>
      intro c hc
      exact ⟨c, hc, fun _ => rfl⟩
  | both _ _ iha ihb =>
      intro c hc
      obtain ⟨left, right, hleft, hright, rfl⟩ := condition_both_iff.mp hc
      obtain ⟨left', hleft', hl⟩ := iha hleft
      obtain ⟨right', hright', hr⟩ := ihb hright
      refine ⟨_, condition_both_iff.mpr ⟨left', right', hleft', hright', rfl⟩, fun v => ?_⟩
      rw [Condition.holds_and, Condition.holds_and, hl, hr]
  | negation _ ih =>
      intro c hc
      obtain ⟨inner, hinner, rfl⟩ := condition_negation_iff.mp hc
      obtain ⟨inner', hinner', hi⟩ := ih hinner
      refine ⟨_, condition_negation_iff.mpr ⟨inner', hinner', rfl⟩, fun v => ?_⟩
      rw [Condition.holds_not, Condition.holds_not, hi]
  | clause_left _ ih =>
      intro c hc
      obtain ⟨inner, hinner, rfl⟩ := condition_clause_iff.mp hc
      obtain ⟨d, hd, hholds⟩ := ih hinner
      refine ⟨d, hd, fun v => ?_⟩
      rw [Condition.holds_wrap, hholds]
  | clause_right _ ih =>
      intro c hc
      obtain ⟨d, hd, hholds⟩ := ih hc
      refine ⟨_, condition_clause_iff.mpr ⟨d, hd, rfl⟩, fun v => ?_⟩
      rw [Condition.holds_wrap, hholds]
  | ofClause_left _ ih =>
      intro c hc
      obtain ⟨inner, hinner, rfl⟩ := condition_ofClause_iff.mp hc
      obtain ⟨d, hd, hholds⟩ := ih hinner
      refine ⟨d, hd, fun v => ?_⟩
      rw [Condition.holds_ofOperand, hholds]
  | ofClause_right _ ih =>
      intro c hc
      obtain ⟨d, hd, hholds⟩ := ih hc
      refine ⟨_, condition_ofClause_iff.mpr ⟨d, hd, rfl⟩, fun v => ?_⟩
      rw [Condition.holds_ofOperand, hholds]

def Says (v : Viewer) : {style : Connective} → Expression style → Prop
  | _, .always => True
  | _, .loggedIn => v.isLoggedIn = true
  | _, .role segment => Segment.roleHolds segment v = true
  | _, .capability segment => (Segment.capabilityHolds segment v).value = true
  | _, .user key segment =>
      ∃ k : UserKey, key = Keyword.text k ∧ Segment.identityHolds k segment v = true
  | _, .pair r c => (Predicate.holds ⟨r, c⟩ v).value = true
  | _, .token text => ((Predicate.parse text).holds v).value = true
  | _, .both a b => a.Says v ∧ b.Says v
  | _, .negation a => ¬ a.Says v
  | _, .clause a => a.Says v
  | _, .ofClause a => a.Says v

/-- The outcome of an evaluation from the left and the capabilities asked for on the way. -/
inductive Evaluates (v : Viewer) :
    {style : Connective} → Expression style → Bool → List Text → Prop
  | always : Evaluates v .always true []
  | loggedIn : Evaluates v .loggedIn v.isLoggedIn []
  | role (segment : Text) : Evaluates v (.role segment) (Segment.roleHolds segment v) []
  | capability (segment : Text) :
      Evaluates v (.capability segment) (Segment.capabilityHolds segment v).value
        [Segment.realName segment]
  | user (key : UserKey) (segment : Text) :
      Evaluates v (.user (Keyword.text key) segment) (Segment.identityHolds key segment v) []
  | pair (p : Predicate) :
      Evaluates v (.pair p.role p.capability) (p.holds v).value (Rule.asked v [p])
  | token (text : Text) :
      Evaluates v (.token text) ((Predicate.parse text).holds v).value
        (Rule.asked v [Predicate.parse text])
  | left_fails {style : Connective} {a b : Expression style} {names : List Text} :
      Evaluates v a false names → Evaluates v (.both a b) false names
  | left_holds {style : Connective} {a b : Expression style} {value : Bool}
      {names more : List Text} :
      Evaluates v a true names → Evaluates v b value more →
        Evaluates v (.both a b) value (names ++ more)
  | negation {style : Connective} {a : Expression style} {value : Bool} {names : List Text} :
      Evaluates v a value names → Evaluates v (.negation a) (!value) names
  | clause {a : Formula} {value : Bool} {names : List Text} :
      Evaluates v a value names → Evaluates v (.clause a) value names
  | ofClause {a : Expression .operator} {value : Bool} {names : List Text} :
      Evaluates v a value names → Evaluates v (.ofClause a) value names

theorem Readable.exists_evaluates {style : Connective} {e : Expression style} (h : e.Readable)
    (v : Viewer) : ∃ value names, e.Evaluates v value names := by
  induction e with
  | always => exact ⟨_, _, .always⟩
  | loggedIn => exact ⟨_, _, .loggedIn⟩
  | role segment => exact ⟨_, _, .role segment⟩
  | capability segment => exact ⟨_, _, .capability segment⟩
  | user key segment =>
      obtain ⟨k, rfl⟩ := h
      exact ⟨_, _, .user k segment⟩
  | pair r c => exact ⟨_, _, .pair ⟨r, c⟩⟩
  | token text => exact ⟨_, _, .token text⟩
  | both a b iha ihb =>
      obtain ⟨left, names, hleft⟩ := iha h.1
      cases left with
      | false => exact ⟨_, _, .left_fails hleft⟩
      | true =>
          obtain ⟨right, more, hright⟩ := ihb h.2
          exact ⟨_, _, .left_holds hleft hright⟩
  | negation a ih =>
      obtain ⟨value, names, ha⟩ := ih h
      exact ⟨_, _, .negation ha⟩
  | clause a ih =>
      obtain ⟨value, names, ha⟩ := ih h
      exact ⟨_, _, .clause ha⟩
  | ofClause a ih =>
      obtain ⟨value, names, ha⟩ := ih h
      exact ⟨_, _, .ofClause ha⟩

/-- An evaluation comes to what the expression says, whether or not it has looked at
every leaf. -/
theorem Evaluates.value_iff_says {v : Viewer} {style : Connective} {e : Expression style}
    {value : Bool} {names : List Text} (h : e.Evaluates v value names) :
    value = true ↔ e.Says v := by
  induction h with
  | always => exact iff_of_true rfl trivial
  | loggedIn => exact Iff.rfl
  | role segment => exact Iff.rfl
  | capability segment => exact Iff.rfl
  | user key segment =>
      constructor
      · intro hholds
        exact ⟨key, rfl, hholds⟩
      · rintro ⟨k, hk, hholds⟩
        obtain rfl := Keyword.text_injective _ _ hk
        exact hholds
  | pair p => exact Iff.rfl
  | token text => exact Iff.rfl
  | left_fails _ ih =>
      have hleft := mt ih.mpr Bool.false_ne_true
      exact iff_of_false Bool.false_ne_true fun hsays => hleft hsays.1
  | left_holds _ _ iha ihb =>
      have hleft := iha.mp rfl
      exact ihb.trans ⟨fun hright => ⟨hleft, hright⟩, fun hsays => hsays.2⟩
  | @negation _ a value _ _ ih =>
      show (!value) = true ↔ ¬ a.Says v
      rw [← ih, Bool.not_eq_true', Bool.not_eq_true]
  | clause _ ih => exact ih
  | ofClause _ ih => exact ih

end Expression

/-! ## Outcomes with their questions -/

namespace Traced

section Yields
variable {x y : Traced Bool} {value : Bool} {names more : List Text}

theorem Yields.both_of_false (hx : x.Yields false names) : (both x y).Yields false names := by
  obtain ⟨hvalue, hcalls⟩ := hx
  constructor
  · rw [value_both, hvalue, Bool.false_and]
  · rw [calls_both, hvalue, hcalls, if_neg Bool.false_ne_true, List.append_nil]

theorem Yields.both_of_true (hx : x.Yields true names) (hy : y.Yields value more) :
    (both x y).Yields value (names ++ more) := by
  obtain ⟨hvalue, hcalls⟩ := hx
  constructor
  · rw [value_both, hvalue, Bool.true_and, hy.1]
  · rw [calls_both, hvalue, hcalls, if_pos rfl, hy.2, List.map_append]

theorem Yields.negated (hx : x.Yields value names) :
    (do return !(← x) : Traced Bool).Yields (!value) names := by
  obtain ⟨hvalue, hcalls⟩ := hx
  constructor
  · rw [value_bind, value_pure, hvalue]
  · rw [calls_bind, calls_pure, List.append_nil, hcalls]

theorem Yields.unique {value' : Bool} (h : x.Yields value names) (h' : x.Yields value' more) :
    value' = value ∧ more = names := by
  have hnames := (List.map_inj_right fun _ _ => Callback.capability.inj).mp (h'.2.symm.trans h.2)
  exact ⟨h'.1.symm.trans h.1, hnames⟩

end Yields

end Traced

namespace Expression

section Hosted
variable {v : Viewer} (hosted : v.capabilityCheck.isSome = true)
include hosted

theorem yields_predicate (p : Predicate) :
    (p.holds v).Yields (p.holds v).value (Rule.asked v [p]) := by
  have hasked : Rule.asked v [p] = p.questions v := by
    rw [Rule.asked_cons]
    exact List.append_nil _
  refine ⟨rfl, ?_⟩
  rw [Predicate.calls_holds, Viewer.checks, if_pos hosted, hasked]

theorem yields_capability (segment : Text) :
    (Segment.capabilityHolds segment v).Yields (Segment.capabilityHolds segment v).value
      [Segment.realName segment] := by
  refine ⟨rfl, ?_⟩
  rw [Segment.calls_capabilityHolds, Viewer.checks, if_pos hosted]

variable {style : Connective} {e : Expression style}

theorem Evaluates.yields {value : Bool} {names : List Text} (h : e.Evaluates v value names) :
    ∀ {c : Condition style}, e.condition = .ok c → (c.holds v).Yields value names := by
  induction h with
  | always =>
      rintro c ⟨⟩
      exact ⟨rfl, rfl⟩
  | loggedIn =>
      rintro c ⟨⟩
      exact ⟨rfl, rfl⟩
  | role segment =>
      rintro c ⟨⟩
      exact ⟨rfl, rfl⟩
  | capability segment =>
      rintro c ⟨⟩
      exact yields_capability hosted segment
  | user key segment =>
      intro c hc
      rw [condition_user] at hc
      obtain rfl := Except.ok.inj hc
      exact ⟨rfl, rfl⟩
  | pair p =>
      rintro c ⟨⟩
      exact yields_predicate hosted p
  | token text =>
      rintro c ⟨⟩
      exact yields_predicate hosted (Predicate.parse text)
  | left_fails _ ih =>
      intro c hc
      obtain ⟨left, right, hleft, -, rfl⟩ := condition_both_iff.mp hc
      rw [Condition.holds_and]
      exact (ih hleft).both_of_false
  | left_holds _ _ iha ihb =>
      intro c hc
      obtain ⟨left, right, hleft, hright, rfl⟩ := condition_both_iff.mp hc
      rw [Condition.holds_and]
      exact (iha hleft).both_of_true (ihb hright)
  | negation _ ih =>
      intro c hc
      obtain ⟨inner, hinner, rfl⟩ := condition_negation_iff.mp hc
      rw [Condition.holds_not]
      exact (ih hinner).negated
  | clause _ ih =>
      intro c hc
      obtain ⟨inner, hinner, rfl⟩ := condition_clause_iff.mp hc
      rw [Condition.holds_wrap]
      exact ih hinner
  | ofClause _ ih =>
      intro c hc
      obtain ⟨inner, hinner, rfl⟩ := condition_ofClause_iff.mp hc
      rw [Condition.holds_ofOperand]
      exact ih hinner

theorem Readable.exists_yields (h : e.Readable) {c : Condition style} (hc : e.condition = .ok c) :
    ∃ value names, (c.holds v).Yields value names ∧
      ∀ value' names', e.Evaluates v value' names' ↔ value' = value ∧ names' = names := by
  obtain ⟨value, names, heval⟩ := h.exists_evaluates v
  have hyields := heval.yields hosted hc
  refine ⟨value, names, hyields, fun value' names' => ⟨fun heval' => ?_, ?_⟩⟩
  · exact hyields.unique (heval'.yields hosted hc)
  · rintro ⟨rfl, rfl⟩
    exact heval

theorem Readable.value_holds_iff (h : e.Readable) {c : Condition style} (hc : e.condition = .ok c) :
    (c.holds v).value = true ↔ e.Says v := by
  obtain ⟨value, names, heval⟩ := h.exists_evaluates v
  rw [(heval.yields hosted hc).1]
  exact heval.value_iff_says

end Hosted

end Expression

namespace Formula

theorem holds_role_and_capability {r s : Text} (hr : r ≠ []) (hs : s ≠ [])
    (hkey : ∀ key : UserKey, r ≠ Keyword.text key) (v : Viewer) :
    Traced.both (pure (Segment.roleHolds r v)) (Segment.capabilityHolds s v) =
      Predicate.holds ⟨r, s⟩ v := by
  have hrole : r.isEmpty = false := List.isEmpty_eq_false_iff.mpr hr
  have hcapability : s.isEmpty = false := List.isEmpty_eq_false_iff.mpr hs
  rw [Predicate.holds_eq, Predicate.kind_of_ne_text hkey]
  simp only [hrole, hcapability]

/-- Put to a viewer whom the host checks, what a readable expression writes holds exactly
if the expression is true of the viewer, and asks for what the one evaluation of the
expression asks for.  An expression that differs from it in notation alone writes what is
judged in the same way.  A role and a capability that are not empty, the role no user
key, come to the predicate of the two in either style. -/
theorem condition_yields (v : Viewer) (hosted : v.capabilityCheck.isSome = true) :
    (∀ (style : Connective) (e : Expression style), e.Readable → ∃ c, e.condition = .ok c ∧
      ((c.holds v).value = true ↔ e.Says v) ∧
      (∃ value names, (c.holds v).Yields value names ∧
        ∀ value' names', e.Evaluates v value' names' ↔ value' = value ∧ names' = names) ∧
      ∀ (style' : Connective) (e' : Expression style'), e.Restyled e' →
        ∃ d, e'.condition = .ok d ∧ d.holds v = c.holds v) ∧
    ∀ (style : Connective) (r s : Text), r ≠ [] → s ≠ [] →
      (∀ key : UserKey, r ≠ Keyword.text key) →
      ∃ c, (both style (.role r) (.capability s)).condition = .ok c ∧
        c.holds v = Predicate.holds ⟨r, s⟩ v := by
  constructor
  · intro style e readable
    obtain ⟨c, hc⟩ := readable.exists_condition
    refine ⟨c, hc, readable.value_holds_iff hosted hc, readable.exists_yields hosted hc, ?_⟩
    intro style' e' restyled
    obtain ⟨d, hd, hholds⟩ := restyled.exists_condition hc
    exact ⟨d, hd, hholds v⟩
  · intro style r s hr hs hkey
    have hholds := holds_role_and_capability hr hs hkey v
    cases style with
    | function => exact ⟨_, rfl, hholds⟩
    | operator => exact ⟨_, rfl, hholds⟩

/-- The first operand fails on the left of its inner conjunction, where the host is asked,
and leaves the right alone; its negation lets the second operand ask.  With functions for
the operators nothing changes. -/
theorem condition_yields_short_circuit :
    let v := Viewer.anonymous.withCapabilityCheck fun name => name == "read".toList
    let e : Expression .operator := .both
      (.clause (.negation (.ofClause
        (.both (.clause (.capability "edit".toList)) (.clause (.pair [] "read".toList))))))
      (.clause (.both (.user "userid".toList []) (.token ":!manage".toList)))
    let f : Expression .function := .both
      (.negation (.both (.capability "edit".toList) (.pair [] "read".toList)))
      (.both (.user "userid".toList []) (.token ":!manage".toList))
    v.capabilityCheck.isSome = true ∧ e.Readable ∧ e.Restyled f ∧ e.Says v ∧
      e.Evaluates v true ["edit".toList, "manage".toList] ∧
      ∃ c d, e.condition = .ok c ∧ f.condition = .ok d ∧ d.holds v = c.holds v := by
  intro v e f
  have readable : e.Readable := ⟨⟨trivial, trivial⟩, ⟨.id, rfl⟩, trivial⟩
  have restyled : e.Restyled f :=
    .both (.clause_left (.negation (.ofClause_left
      (.both (.clause_left (.refl _)) (.clause_left (.refl _))))))
      (.clause_left (.refl _))
  obtain ⟨c, hc, hsays, ⟨value, names, hyields, hevaluates⟩, hrestyled⟩ :=
    (condition_yields v rfl).1 _ e readable
  obtain ⟨d, hd, hholds⟩ := hrestyled _ f restyled
  have hasked : (c.holds v).Yields true ["edit".toList, "manage".toList] := by
    cases hc
    exact ⟨rfl, rfl⟩
  exact ⟨rfl, readable, restyled, hsays.mp hasked.1, (hevaluates _ _).mpr (hyields.unique hasked),
    c, d, hc, hd, hholds⟩

end Formula

end ContentVisibility
