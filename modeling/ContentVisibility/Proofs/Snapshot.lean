import ContentVisibility.Proofs.Json.Compact
import ContentVisibility.Proofs.Json.Record
import ContentVisibility.Viewer.Json

/-! # Viewers survive JSON

An object describes a viewer when each of its members that is named like a field
gives the viewer's value, no field comes twice, and the fields that do not come
have the values of the anonymous viewer; members of other names may stand
anywhere.  A viewer without a check of the host's is read from every object that
describes it, and what is written for it is such an object
(`Viewer.parse_described`). -/
set_option autoImplicit false

namespace ContentVisibility

inductive FieldValue where
  | flag (b : Bool)
  | text (s : Text)
  | names (s : NameSet)

namespace FieldValue

/-- The tree gives the value; a set is given by its members in any order and with any
repetitions. -/
def Given : FieldValue → Json.Tree → Prop
  | .flag b, t => t.boolean? = some b
  | .text s, t => t.spelled? = some s
  | .names s, t => ∃ names, t.values? Json.Tree.spelled? = some names ∧ ∀ x, x ∈ names ↔ x ∈ s

def tree : FieldValue → Json.Tree
  | .flag b => .boolean b
  | .text s => .ofText s
  | .names s => .ofList (s.names.map .ofText)

theorem given_tree (value : FieldValue) : value.Given value.tree := by
  cases value with
  | flag b => rfl
  | text s => exact Json.Literal.spelled?_ofText s
  | names s => exact ⟨s.names, Json.Elements.values?_ofText s.names, fun _ => Iff.rfl⟩

end FieldValue

inductive ViewerField where
  | isLoggedIn
  | roles
  | userId
  | username
  | userEmail
  | capabilities
  deriving DecidableEq

instance : Keyword ViewerField where
  text
    | .isLoggedIn => "is_logged_in".toList
    | .roles => "roles".toList
    | .userId => "user_id".toList
    | .username => "username".toList
    | .userEmail => "user_email".toList
    | .capabilities => "capabilities".toList
  all := [.isLoggedIn, .roles, .userId, .username, .userEmail, .capabilities]
  mem_all a := by cases a <;> simp
  text_injective a b := by cases a <;> cases b <;> decide

namespace ViewerField

def name (f : ViewerField) : Text := Keyword.text f

theorem name_injective {f g : ViewerField} (h : f.name = g.name) : f = g :=
  Keyword.text_injective f g h

def value (f : ViewerField) (v : Viewer) : FieldValue :=
  match f with
  | .isLoggedIn => .flag v.isLoggedIn
  | .roles => .names v.roles
  | .userId => .text v.userId
  | .username => .text v.username
  | .userEmail => .text v.userEmail
  | .capabilities => .names v.capabilities

/-- The viewer that has the field of the first viewer and all else of the second. -/
def copy (f : ViewerField) (v acc : Viewer) : Viewer :=
  match f with
  | .isLoggedIn => { acc with isLoggedIn := v.isLoggedIn }
  | .roles => { acc with roles := v.roles }
  | .userId => { acc with userId := v.userId }
  | .username => { acc with username := v.username }
  | .userEmail => { acc with userEmail := v.userEmail }
  | .capabilities => { acc with capabilities := v.capabilities }

@[simp] theorem value_copy (f : ViewerField) (v acc : Viewer) :
    f.value (f.copy v acc) = f.value v := by
  cases f <;> rfl

theorem value_copy_of_ne {f g : ViewerField} (h : g ≠ f) (v acc : Viewer) :
    g.value (f.copy v acc) = g.value acc := by
  cases f <;> cases g <;> first | rfl | exact absurd rfl h

theorem capabilityCheck_copy (f : ViewerField) (v acc : Viewer) :
    (f.copy v acc).capabilityCheck = acc.capabilityCheck := by
  cases f <;> rfl

end ViewerField

namespace Viewer

theorem ext_value {v w : Viewer} (h : ∀ f : ViewerField, f.value v = f.value w)
    (hcheck : v.capabilityCheck = w.capabilityCheck) : v = w := by
  have hlogged := h .isLoggedIn
  have hroles := h .roles
  have hid := h .userId
  have hname := h .username
  have hemail := h .userEmail
  have hcapabilities := h .capabilities
  simp only [ViewerField.value, FieldValue.flag.injEq, FieldValue.names.injEq,
    FieldValue.text.injEq] at hlogged hroles hid hname hemail hcapabilities
  cases v
  cases w
  simp_all

/-! ## Objects that describe a viewer -/

structure Describes (members : List Json.Member) (v : Viewer) : Prop where
  /-- The keys are texts. -/
  named : ∀ m ∈ members, ∃ name, m.name? = some name
  given : ∀ m ∈ members, ∀ f : ViewerField, m.name? = some f.name → (f.value v).Given m.value
  once : members.Pairwise fun m n =>
    ∀ f : ViewerField, m.name? = some f.name → n.name? ≠ some f.name
  left_out : ∀ f : ViewerField, (∀ m ∈ members, m.name? ≠ some f.name) →
    f.value v = f.value .anonymous

theorem takes_field (f : ViewerField) :
    ∃ field, record.field? f.name = some field ∧
      ∀ {t : Json.Tree} {v : Viewer}, (f.value v).Given t →
        ∀ acc, field.Takes t acc (f.copy v acc) := by
  have hset {names : List Text} {s : NameSet} (h : ∀ x, x ∈ names ↔ x ∈ s) : .ofList names = s :=
    NameSet.ext fun x => NameSet.mem_ofList.trans (h x)
  cases f with
  | isLoggedIn => exact ⟨_, rfl, fun h acc => Json.Field.takes_of Json.reads_bool h acc⟩
  | userId => exact ⟨_, rfl, fun h acc => Json.Field.takes_of Json.reads_text h acc⟩
  | username => exact ⟨_, rfl, fun h acc => Json.Field.takes_of Json.reads_text h acc⟩
  | userEmail => exact ⟨_, rfl, fun h acc => Json.Field.takes_of Json.reads_text h acc⟩
  | roles =>
      refine ⟨_, rfl, fun h acc => ?_⟩
      obtain ⟨names, hnames, hmem⟩ := h
      rw [ViewerField.copy, ← hset hmem]
      exact Json.Field.takes_of (Json.reads_list Json.reads_text) hnames acc
  | capabilities =>
      refine ⟨_, rfl, fun h acc => ?_⟩
      obtain ⟨names, hnames, hmem⟩ := h
      rw [ViewerField.copy, ← hset hmem]
      exact Json.Field.takes_of (Json.reads_list Json.reads_text) hnames acc

theorem field?_eq_none {name : Text} (h : ∀ f : ViewerField, f.name ≠ name) :
    record.field? name = none := by
  have hnames : record.fields.map Json.Field.name =
      (Keyword.all : List ViewerField).map ViewerField.name := rfl
  refine List.find?_eq_none.mpr fun g hg heq => ?_
  have hmem : g.name ∈ record.fields.map Json.Field.name := List.mem_map_of_mem hg
  rw [hnames] at hmem
  obtain ⟨f, -, hf⟩ := List.mem_map.mp hmem
  exact h f (hf.trans (beq_iff_eq.mp heq))

/-- The given fields are the viewer's, and the others are as they were at the start. -/
structure Filled (v : Viewer) (fields : List ViewerField) (acc : Viewer) : Prop where
  unchecked : acc.capabilityCheck = none
  present : ∀ f ∈ fields, f.value acc = f.value v
  absent : ∀ f ∉ fields, f.value acc = f.value .anonymous

theorem Filled.copy {v acc : Viewer} {fields : List ViewerField} (h : Filled v fields acc)
    (f : ViewerField) : Filled v (f :: fields) (f.copy v acc) where
  unchecked := (f.capabilityCheck_copy v acc).trans h.unchecked
  present g hg := by
    by_cases hgf : g = f
    · rw [hgf, ViewerField.value_copy]
    · rw [ViewerField.value_copy_of_ne hgf]
      exact h.present g ((List.mem_cons.mp hg).resolve_left hgf)
  absent g hg := by
    rw [List.mem_cons, not_or] at hg
    rw [ViewerField.value_copy_of_ne hg.1]
    exact h.absent g hg.2

theorem Filled.eq {v acc : Viewer} {fields : List ViewerField} (h : Filled v fields acc)
    (unchecked : v.capabilityCheck = none)
    (hrest : ∀ f ∉ fields, f.value v = f.value .anonymous) : acc = v := by
  refine ext_value (fun f => ?_) (h.unchecked.trans unchecked.symm)
  by_cases hf : f ∈ fields
  · exact h.present f hf
  · rw [h.absent f hf, hrest f hf]

/-- The members give what the viewer has beyond the given fields, and none of those. -/
structure Supplies (v : Viewer) (fields : List ViewerField) (members : List Json.Member) :
    Prop where
  named : ∀ m ∈ members, ∃ name, m.name? = some name
  given : ∀ m ∈ members, ∀ f : ViewerField, m.name? = some f.name → (f.value v).Given m.value
  once : members.Pairwise fun m n =>
    ∀ f : ViewerField, m.name? = some f.name → n.name? ≠ some f.name
  fresh : ∀ f ∈ fields, ∀ m ∈ members, m.name? ≠ some f.name
  left_out : ∀ f ∉ fields, (∀ m ∈ members, m.name? ≠ some f.name) →
    f.value v = f.value .anonymous

section Supplies
variable {v : Viewer} {fields : List ViewerField} {m : Json.Member} {members : List Json.Member}

theorem Describes.supplies (h : Describes members v) : Supplies v [] members where
  named := h.named
  given := h.given
  once := h.once
  fresh _ hf := nomatch hf
  left_out f _ := h.left_out f

theorem Supplies.tail_of_other (h : Supplies v fields (m :: members))
    (hother : ∀ f : ViewerField, m.name? ≠ some f.name) : Supplies v fields members where
  named n hn := h.named n (List.mem_cons_of_mem m hn)
  given n hn := h.given n (List.mem_cons_of_mem m hn)
  once := (List.pairwise_cons.mp h.once).2
  fresh f hf n hn := h.fresh f hf n (List.mem_cons_of_mem m hn)
  left_out f hf hrest := h.left_out f hf (List.forall_mem_cons.mpr ⟨hother f, hrest⟩)

theorem Supplies.tail_of_name {f : ViewerField} (h : Supplies v fields (m :: members))
    (hf : m.name? = some f.name) : Supplies v (f :: fields) members where
  named n hn := h.named n (List.mem_cons_of_mem m hn)
  given n hn := h.given n (List.mem_cons_of_mem m hn)
  once := (List.pairwise_cons.mp h.once).2
  fresh g hg n hn := by
    rcases List.mem_cons.mp hg with rfl | hg
    · exact (List.pairwise_cons.mp h.once).1 n hn g hf
    · exact h.fresh g hg n (List.mem_cons_of_mem m hn)
  left_out g hg hrest := by
    rw [List.mem_cons, not_or] at hg
    have hhead : m.name? ≠ some g.name := by
      rw [hf]
      exact fun heq => hg.1 (ViewerField.name_injective (Option.some.inj heq)).symm
    exact h.left_out g hg.2 (List.forall_mem_cons.mpr ⟨hhead, hrest⟩)

end Supplies

/-- What the members supply completes the viewer. -/
theorem takes_of_supplies {v : Viewer} (unchecked : v.capabilityCheck = none) :
    ∀ (members : Json.Members) {fields : List ViewerField} {acc : Viewer},
      Filled v fields acc → Supplies v fields members.toList →
      record.Takes (fields.map ViewerField.name) acc members v
  | .nil, fields, acc, hfilled, hsupplies => by
      obtain rfl : acc = v := hfilled.eq unchecked fun f hf =>
        hsupplies.left_out f hf fun m hm => nomatch hm
      exact .nil
  | .cons frame value rest, fields, acc, hfilled, hsupplies => by
      rw [Json.Members.toList] at hsupplies
      obtain ⟨name, hname⟩ := hsupplies.named _ List.mem_cons_self
      by_cases hfield : ∃ f : ViewerField, f.name = name
      · obtain ⟨f, rfl⟩ := hfield
        obtain ⟨field, hfield, htakes⟩ := takes_field f
        have hvalue := hsupplies.given _ List.mem_cons_self f hname
        have hnew : f.name ∉ fields.map ViewerField.name := by
          intro hmem
          obtain ⟨g, hg, hgf⟩ := List.mem_map.mp hmem
          exact hsupplies.fresh g hg _ List.mem_cons_self (hgf ▸ hname)
        have hrest := takes_of_supplies unchecked rest (hfilled.copy f)
          (hsupplies.tail_of_name hname)
        exact .known hname hfield hnew (htakes hvalue acc) hrest
      · have hunknown : ∀ f : ViewerField, f.name ≠ name := fun f hf => hfield ⟨f, hf⟩
        have hrest := takes_of_supplies unchecked rest hfilled (hsupplies.tail_of_other fun f heq =>
          hunknown f (Option.some.inj (heq.symm.trans hname)))
        exact .unknown hname (field?_eq_none hunknown) hrest

theorem filled_anonymous (v : Viewer) : Filled v [] .anonymous where
  unchecked := rfl
  present _ hf := nomatch hf
  absent _ _ := rfl

theorem record_parse_of_describes {v : Viewer} (unchecked : v.capabilityCheck = none)
    {members : Json.Members} (h : Describes members.toList v) (lead gap trail : Json.Gap) :
    record.parse (lead.text ++ ((Json.Tree.object members gap).text ++ trail.text)) = .ok v :=
  Json.Record.parse_object (takes_of_supplies unchecked members (filled_anonymous v) h.supplies)
    rfl lead gap trail

/-! ## What is written -/

def trees (v : Viewer) : List (Text × Json.Tree) :=
  (Keyword.all : List ViewerField).map fun f => (f.name, (f.value v).tree)

theorem toJson_eq (v : Viewer) : v.toJson = (Json.Tree.ofMembers v.trees).text := by
  have hnames (s : NameSet) : namesText s = (FieldValue.names s).tree.text := by
    simp [namesText, FieldValue.tree, Json.Tree.text_ofList, Function.comp_def,
      Json.Tree.text_ofText]
  have hflag (b : Bool) : Json.boolText b = (FieldValue.flag b).tree.text := by
    cases b <;> rfl
  have htext (s : Text) : Json.quoted s = (FieldValue.text s).tree.text :=
    (Json.Tree.text_ofText s).symm
  rw [Json.Tree.text_ofMembers, toJson, members]
  simp only [hnames, hflag, htext]
  rfl

def written (v : Viewer) (f : ViewerField) : Json.Member :=
  ⟨{ key := .ofText f.name }, (f.value v).tree⟩

theorem name?_written (v : Viewer) (f : ViewerField) : (v.written f).name? = some f.name :=
  Json.Literal.spelled?_ofText f.name

theorem toList_trees (v : Viewer) :
    (Json.Members.ofList v.trees).toList = (Keyword.all : List ViewerField).map v.written := by
  rw [Json.Members.toList_ofList, trees, List.map_map]
  rfl

theorem describes_trees (v : Viewer) : Describes (Json.Members.ofList v.trees).toList v := by
  have heq {f g : ViewerField} (h : (v.written f).name? = some g.name) : f = g :=
    ViewerField.name_injective (Option.some.inj ((v.name?_written f).symm.trans h))
  rw [toList_trees]
  constructor
  case named =>
    intro m hm
    obtain ⟨f, -, rfl⟩ := List.mem_map.mp hm
    exact ⟨f.name, v.name?_written f⟩
  case given =>
    intro m hm g hg
    obtain ⟨f, -, rfl⟩ := List.mem_map.mp hm
    rw [← heq hg]
    exact (f.value v).given_tree
  case once =>
    have hdistinct : (Keyword.all : List ViewerField).Pairwise (· ≠ ·) := by decide
    refine List.pairwise_map.mpr (hdistinct.imp fun hne f hf hg => ?_)
    exact hne ((heq hf).trans (heq hg).symm)
  case left_out =>
    intro f hf
    exact absurd (v.name?_written f) (hf _ (List.mem_map_of_mem (Keyword.mem_all f)))

theorem value_parse (s : Text) : (parse s).value = record.parse s := by
  rw [parse]
  cases record.parse s <;> rfl

/-- A viewer without a check of the host's is read again from what is written for it,
and from every object that describes it: with its members in any order, the elements
of its sets in any order and number, any fields left out that are as in the anonymous
viewer, any other members with well-formed values, any spelling of texts and any gaps. -/
theorem parse_described (v : Viewer) (unchecked : v.capabilityCheck = none) :
    (parse v.toJson).value = .ok v ∧
      ∀ (members : Json.Members) (lead gap trail : Json.Gap), Describes members.toList v →
        (parse (lead.text ++ ((Json.Tree.object members gap).text ++ trail.text))).value = .ok v := by
  refine ⟨?_, fun members lead gap trail h => ?_⟩
  · have hwritten := record_parse_of_describes unchecked v.describes_trees [] [] []
    rw [value_parse, toJson_eq, Json.Tree.ofMembers]
    simpa [Json.Gap.text] using hwritten
  · rw [value_parse]
    exact record_parse_of_describes unchecked h lead gap trail

/-- Members out of order and apart, a role twice, three fields left out, a key and
texts with escapes, and a member of another name whose value has half a pair in a key. -/
theorem parse_described_escaped :
    let unit (a b c d : Fin 16) : Json.CodeUnit := ⟨⟨a, false⟩, ⟨b, true⟩, ⟨c, false⟩, ⟨d, true⟩⟩
    let v : Viewer :=
      { isLoggedIn := true, roles := .ofList ["😀".toList, "a".toList], userId := "\"\\\n".toList }
    let number : Json.NumberText :=
      ⟨true, ⟨⟨0, []⟩, fun _ => rfl⟩, some ⟨5, []⟩, some ⟨true, some true, ⟨3, []⟩⟩⟩
    let note : Json.Tree := .object (.cons { key := [.lone (unit 13 8 0 0)] }
      (.list (.cons [] (.number number) [] (.cons [.space] .null [] .nil)) []) .nil) [.tab]
    let smile : Json.Lexeme := .units '😀' [unit 13 8 3 13, unit 13 14 0 0] (by decide)
    let underscore : Json.Lexeme := .units '_' [unit 0 0 5 15] (by decide)
    let members : Json.Members :=
      .cons { before := [.lineFeed], key := .ofText "note".toList, afterColon := [.space] } note <|
      .cons { key := .ofText "roles".toList }
        (.ofList [.ofText "a".toList, .literal [smile], .ofText "a".toList]) <|
      .cons { key := .ofText "user".toList ++ [underscore] ++ .ofText "id".toList }
        (.ofText "\"\\\n".toList) <|
      .cons { key := .ofText "is_logged_in".toList } (.boolean true) .nil
    let raw : Text :=
      ("\x7b\n\"note\": \x7b\"\\ud800\":[-0.5E-3, null]\t\x7d,\"roles\":[\"a\",\"\\ud83D\\udE00\",\"a\"]," ++
        "\"user\\u005Fid\":\"\\\"\\\\\\n\",\"is_logged_in\":true\x7d").toList
    v.capabilityCheck = none ∧ (Json.Tree.object members []).text = raw ∧
      (parse raw).value = .ok v := by
  intro unit v number note smile underscore members raw
  have hraw : (Json.Tree.object members []).text = raw := by decide +kernel
  have hdistinct : members.toList.Pairwise fun m n => m.name? ≠ n.name? := by decide
  have describes : Describes members.toList v := by
    constructor
    case named =>
      intro m hm
      have hnamed : m.name?.isSome = true := by
        revert m
        decide
      exact Option.isSome_iff_exists.mp hnamed
    case given =>
      intro m hm f hf
      simp only [members, Json.Members.toList, List.mem_cons, List.not_mem_nil, or_false] at hm
      rcases hm with rfl | rfl | rfl | rfl
      · cases f <;> exact absurd hf (by decide)
      · cases f with
        | roles =>
            have hroles : ∀ x, x ∈ ["a".toList, "😀".toList, "a".toList] ↔ x ∈ v.roles := by
              intro x
              simp only [v, NameSet.mem_ofList, List.mem_cons, List.not_mem_nil]
              grind
            exact ⟨["a".toList, "😀".toList, "a".toList], rfl, hroles⟩
        | isLoggedIn | userId | username | userEmail | capabilities => exact absurd hf (by decide)
      · cases f with
        | userId => rfl
        | isLoggedIn | roles | username | userEmail | capabilities => exact absurd hf (by decide)
      · cases f with
        | isLoggedIn => rfl
        | roles | userId | username | userEmail | capabilities => exact absurd hf (by decide)
    case once => exact hdistinct.imp fun hne f hm hn => hne (hm.trans hn.symm)
    case left_out =>
      intro f hf
      cases f with
      | username | userEmail | capabilities => rfl
      | isLoggedIn | roles | userId => exact absurd hf (by decide)
  have hparse := (parse_described v rfl).2 members [] [] [] describes
  refine ⟨rfl, hraw, ?_⟩
  rw [← hraw]
  simpa [Json.Gap.text] using hparse

end Viewer

end ContentVisibility
