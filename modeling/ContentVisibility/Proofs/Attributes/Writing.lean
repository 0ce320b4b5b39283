import ContentVisibility.Proofs.Attributes.Leftmost

/-! # Attributes that are written down

An entry is an assignment as an author writes it: blanks may stand around the equals
sign, and the value stands in quotes of either kind or bare, as its characters allow.
Entries are listed one after another with blanks between them.

Each entry of a listing is read at its own start and up to its own end, whatever its
value looks like (`Assignment.scan_of_listed`).  An attribute therefore has the value
of the last entry with its name, and listings that differ in the order of unlike
entries, in how entries are written, or in entries for no attribute are parsed alike
(`Attributes.parse_of_listed`). -/
set_option autoImplicit false

namespace ContentVisibility

namespace Assignment

inductive Quoting where
  | double
  | single
  | bare
  deriving DecidableEq

/-- The value may be written in this way. -/
def Quoting.Admits : Quoting → Text → Prop
  | .double, value => '"' ∉ value
  | .single, value => '\'' ∉ value
  | .bare, value => value ≠ [] ∧ ∀ c ∈ value, Text.isBlank c = false ∧ c ≠ '"' ∧ c ≠ '\''

instance : (quoting : Quoting) → (value : Text) → Decidable (quoting.Admits value)
  | .double, value => inferInstanceAs (Decidable ('"' ∉ value))
  | .single, value => inferInstanceAs (Decidable ('\'' ∉ value))
  | .bare, value =>
      decidable_of_iff
        (value ≠ [] ∧ value.all (fun c => !Text.isBlank c && (c != '"' && c != '\'')) = true) (by
          simp [Quoting.Admits])

def Quoting.text : Quoting → Text → Text
  | .double, value => '"' :: (value ++ ['"'])
  | .single, value => '\'' :: (value ++ ['\''])
  | .bare, value => value

structure Entry extends Assignment where
  before : Text := []
  behind : Text := []
  quoting : Quoting
  name_ne_nil : name ≠ [] := by decide
  name_chars : name.all Text.isNameChar = true := by decide
  blank_before : before.all Text.isBlank = true := by decide
  blank_behind : behind.all Text.isBlank = true := by decide
  admits : quoting.Admits value := by decide

def Entry.text (e : Entry) : Text :=
  e.name ++ (e.before ++ '=' :: (e.behind ++ e.quoting.text e.value))

/-- Entries one after another, with a blank at least between any two of them, and
perhaps blanks in front of the first and behind the last. -/
inductive Listed : List Entry → Text → Prop
  | nil {gap : Text} (blank : gap.all Text.isBlank = true) : Listed [] gap
  | cons (gap : Text) {rest : Text} {e : Entry} {entries : List Entry}
      (blank : gap.all Text.isBlank = true) (apart : rest.head?.all Text.isBlank = true)
      (more : Listed entries rest) : Listed (e :: entries) (gap ++ (e.text ++ rest))

theorem Quoting.Admits.reads {quoting : Quoting} {value after : Text}
    (h : quoting.Admits value) (apart : ∀ c ∈ after.head?, Text.isBlank c = true) :
    ReadsValue (quoting.text value ++ after) value after := by
  cases quoting with
  | double =>
      rw [Quoting.text, List.cons_append, List.append_assoc]
      exact .double h
  | single =>
      rw [Quoting.text, List.cons_append, List.append_assoc]
      exact .single h
  | bare =>
      obtain ⟨hne, hchars⟩ := h
      refine .bare hne ⟨fun c hc => ?_, fun c hc => ?_⟩
      · obtain ⟨hblank, hdouble, hsingle⟩ := hchars c hc
        rw [← Bool.not_eq_false, isBareChar_eq_false_iff, isQuote_iff]
        rintro (h | h | h)
        · rw [hblank] at h
          exact Bool.noConfusion h
        · exact hdouble h
        · exact hsingle h
      · exact isBareChar_eq_false_iff.mpr (Or.inl (apart c hc))

/-- An entry is read as far as it is written, whatever follows behind a blank. -/
theorem Entry.reads (e : Entry) {after : Text} (apart : ∀ c ∈ after.head?, Text.isBlank c = true) :
    Reads (e.text ++ after) e.toAssignment after := by
  have hname := List.all_eq_true.mp e.name_chars
  have hblank := List.all_eq_true.mp e.blank_before
  have hbehind := List.all_eq_true.mp e.blank_behind
  have hends : ∀ c ∈ (e.before ++ '=' :: (e.behind ++ (e.quoting.text e.value ++ after))).head?,
      Text.isNameChar c = false := by
    intro c hc
    cases hbefore : e.before with
    | nil =>
        rw [hbefore] at hc
        obtain rfl : '=' = c := Option.some.inj hc
        decide
    | cons d rest =>
        rw [hbefore] at hc
        obtain rfl : d = c := Option.some.inj hc
        exact Text.isNameChar_of_isBlank (hblank d (hbefore ▸ List.mem_cons_self))
  refine ⟨e.before, e.behind, e.quoting.text e.value ++ after, ?_, e.name_ne_nil,
    ⟨hname, hends⟩, hblank, hbehind, e.admits.reads apart⟩
  simp only [Entry.text, List.append_assoc, List.cons_append]

theorem scan_append_of_isBlank {gap : Text} (blank : ∀ c ∈ gap, Text.isBlank c = true) (s : Text) :
    scan (gap ++ s) = scan s := by
  induction gap with
  | nil => rfl
  | cons c gap ih =>
      have hnone : read? (c :: (gap ++ s)) = none := by
        refine not_reads_iff.mp fun a after hreads => ?_
        obtain ⟨d, rest, heq, hname⟩ := hreads.head
        obtain rfl := (List.cons.inj heq).1
        rw [Text.isNameChar_of_isBlank (blank c List.mem_cons_self)] at hname
        exact Bool.noConfusion hname
      rw [List.cons_append, scan_cons_of_read?_none hnone]
      exact ih fun d hd => blank d (List.mem_cons_of_mem _ hd)

theorem scan_of_listed {entries : List Entry} {s : Text} (h : Listed entries s) :
    scan s = entries.map Entry.toAssignment := by
  induction h with
  | @nil gap blank =>
      have hscan := scan_append_of_isBlank (List.all_eq_true.mp blank) []
      rw [List.append_nil, scan_nil] at hscan
      exact hscan
  | @cons gap rest e entries blank apart more ih =>
      have hreads := e.reads ((Option.all_eq_true _ _).mp apart)
      rw [scan_append_of_isBlank (List.all_eq_true.mp blank),
        scan_of_read?_some (read?_eq_some_iff.mpr hreads), ih, List.map_cons]

/-! ## Listings that come to the same -/

/-- The entries differ in the order of entries with different names, in how an entry is
written, or by entries for no attribute. -/
inductive Reworded : List Entry → List Entry → Prop
  | refl (entries : List Entry) : Reworded entries entries
  | swap (front : List Entry) {e f : Entry} (back : List Entry)
      (different : Text.lowerAscii e.name ≠ Text.lowerAscii f.name) :
      Reworded (front ++ e :: f :: back) (front ++ f :: e :: back)
  | rewrite (front : List Entry) {e f : Entry} (back : List Entry) (name : e.name = f.name)
      (value : e.value = f.value) : Reworded (front ++ e :: back) (front ++ f :: back)
  | insert (front : List Entry) {e : Entry} (back : List Entry)
      (other : ¬ ∃ name, e.toAssignment.Names name) :
      Reworded (front ++ back) (front ++ e :: back)
  | symm {entries others : List Entry} (h : Reworded entries others) : Reworded others entries
  | trans {entries others more : List Entry} (h : Reworded entries others)
      (h' : Reworded others more) : Reworded entries more

def lastValue? (entries : List Entry) (name : AttributeName) : Option Text :=
  last? (entries.map Entry.toAssignment) name

theorem lastValue?_append (front back : List Entry) (name : AttributeName) :
    lastValue? (front ++ back) name = (lastValue? back name).or (lastValue? front name) := by
  rw [lastValue?, lastValue?, lastValue?, last?, last?, last?, List.map_append, List.filter_append,
    List.getLast?_append]
  cases ((back.map Entry.toAssignment).filter fun a => decide (a.Names name)).getLast? <;> rfl

theorem lastValue?_cons (e : Entry) (rest : List Entry) (name : AttributeName) :
    lastValue? (e :: rest) name =
      (lastValue? rest name).or (if e.toAssignment.Names name then some e.value else none) :=
  last?_cons e.toAssignment (rest.map Entry.toAssignment) name

theorem Reworded.lastValue?_eq {entries others : List Entry} (h : Reworded entries others)
    (name : AttributeName) : lastValue? entries name = lastValue? others name := by
  induction h with
  | refl => rfl
  | @swap front e f back different =>
      rw [lastValue?_append, lastValue?_append, lastValue?_cons, lastValue?_cons, lastValue?_cons,
        lastValue?_cons]
      by_cases he : e.toAssignment.Names name
      · have hf : ¬ f.toAssignment.Names name := fun hf => different (he.trans hf.symm)
        rw [if_neg hf, Option.or_none, Option.or_none]
      · rw [if_neg he, Option.or_none, Option.or_none]
  | @rewrite front e f back hname hvalue =>
      have heq : e.toAssignment = f.toAssignment := by
        show (⟨e.name, e.value⟩ : Assignment) = ⟨f.name, f.value⟩
        rw [hname, hvalue]
      rw [lastValue?_append, lastValue?_append, lastValue?_cons, lastValue?_cons, heq]
  | @insert front e back other =>
      have hne : ¬ e.toAssignment.Names name := fun h => other ⟨name, h⟩
      rw [lastValue?_append, lastValue?_append, lastValue?_cons, if_neg hne, Option.or_none]
  | symm _ ih => exact ih.symm
  | trans _ _ ih ih' => exact ih.trans ih'

end Assignment

namespace Attributes

/-- Each attribute of a listing has the value of the last entry with its name, capitals
or small letters, or else its default; and a listing that is reworded gives the same
attributes. -/
theorem parse_of_listed {entries : List Assignment.Entry} {raw : Text}
    (listed : Assignment.Listed entries raw) :
    (∀ name, (parse raw).value.get name =
      (Assignment.lastValue? entries name).getD (({} : Attributes).get name)) ∧
    ∀ others other, Assignment.Listed others other → Assignment.Reworded entries others →
      (parse other).value = (parse raw).value := by
  have hget : ∀ {es : List Assignment.Entry} {s : Text}, Assignment.Listed es s → ∀ name,
      (parse s).value.get name =
        (Assignment.lastValue? es name).getD (({} : Attributes).get name) := by
    intro es s h name
    rw [parse, Assignment.scan_of_listed h]
    exact get_value_foldlM_assign_eq name _ _
  refine ⟨hget listed, fun others other hothers reworded => ext_get fun name => ?_⟩
  rw [hget hothers, hget listed, reworded.lastValue?_eq]

/-- The text of an entry stands in the value of another, and its name within a name. -/
theorem parse_of_listed_nested :
    let note : Assignment.Entry :=
      { name := "data-for".toList, value := "x".toList, quoting := .bare }
    let audience : Assignment.Entry := {
      name := "FOR".toList, value := "for=none, \"a\"".toList, quoting := .single
      before := " ".toList, behind := "\u3000".toList }
    let bare : Assignment.Entry :=
      { name := "test".toList, value := "=empty".toList, quoting := .bare }
    let quoted : Assignment.Entry := { bare with quoting := .double, admits := by decide }
    let raw := note.text ++ (" ".toList ++ (audience.text ++ ("\n".toList ++ (bare.text ++ []))))
    let other := quoted.text ++ ("  ".toList ++ (audience.text ++ []))
    raw = "data-for=x FOR =\u3000'for=none, \"a\"'\ntest==empty".toList ∧
      other = "test=\"=empty\"  FOR =\u3000'for=none, \"a\"'".toList ∧
      (parse raw).value.get .audience = "for=none, \"a\"".toList ∧
      (parse other).value = (parse raw).value := by
  intro note audience bare quoted raw other
  have listed : Assignment.Listed [note, audience, bare] raw :=
    .cons [] (by decide) (by decide) (.cons " ".toList (by decide) (by decide)
      (.cons "\n".toList (by decide) (by decide) (.nil (by decide))))
  have hothers : Assignment.Listed [quoted, audience] other :=
    .cons [] (by decide) (by decide)
      (.cons "  ".toList (by decide) (by decide) (.nil (by decide)))
  have reworded : Assignment.Reworded [note, audience, bare] [quoted, audience] :=
    (Assignment.Reworded.insert [] [audience, bare] (by decide)).symm.trans
      ((Assignment.Reworded.swap [] [] (by decide)).trans
        (Assignment.Reworded.rewrite [] [audience] rfl rfl))
  have h := parse_of_listed listed
  exact ⟨by decide, by decide, (h.1 .audience).trans (by decide), h.2 _ other hothers reworded⟩

end Attributes

end ContentVisibility
