import ContentVisibility.Json.Value
import ContentVisibility.Proofs.Json.Literal
import ContentVisibility.Proofs.Json.Numeral

/-! # Well-formed values

A tree is a JSON value as it is written: with the gaps between its parts, the
spelling of its literals and the digits of its numbers.  Trees nest to any
depth.  Every tree is passed over up to its last character, whatever follows it
that may follow a value, and twice its length is fuel enough. -/
set_option autoImplicit false

namespace ContentVisibility.Json

structure Frame where
  before : Gap := []
  key : Literal
  beforeColon : Gap := []
  afterColon : Gap := []
  afterValue : Gap := []

mutual

inductive Tree where
  | null
  | boolean (b : Bool)
  | number (n : NumberText)
  | literal (l : Literal)
  | list (elements : Elements) (gap : Gap)
  | object (members : Members) (gap : Gap)

inductive Elements where
  | nil
  | cons (before : Gap) (value : Tree) (after : Gap) (rest : Elements)

inductive Members where
  | nil
  | cons (frame : Frame) (value : Tree) (rest : Members)

end

def separator (first : Bool) : Text := if first then [] else [',']

def Frame.text (frame : Frame) : Text :=
  frame.before.text ++
    (frame.key.quotedText ++ (frame.beforeColon.text ++ ':' :: frame.afterColon.text))

mutual

def Tree.text : Tree → Text
  | .null => "null".toList
  | .boolean true => "true".toList
  | .boolean false => "false".toList
  | .number n => n.text
  | .literal l => l.quotedText
  | .list elements gap => '[' :: (elements.text true ++ (gap.text ++ [']']))
  | .object members gap => '\x7b' :: (members.text true ++ (gap.text ++ ['\x7d']))

def Elements.text : Elements → Bool → Text
  | .nil, _ => []
  | .cons before value after rest, first =>
      separator first ++ (before.text ++ (value.text ++ (after.text ++ rest.text false)))

def Members.text : Members → Bool → Text
  | .nil, _ => []
  | .cons frame value rest, first =>
      separator first ++ (frame.text ++ (value.text ++ (frame.afterValue.text ++ rest.text false)))

end

structure Member where
  frame : Frame
  value : Tree

def Member.name? (m : Member) : Option Text := m.frame.key.spelled?

def Members.toList : Members → List Member
  | .nil => []
  | .cons frame value rest => ⟨frame, value⟩ :: rest.toList

section Steps
variable {care : Care} {first : Bool}

@[simp] theorem nextElement_gap (gap : Gap) (s : Text) :
    nextElement care first (gap.text ++ s) = nextElement care first s := by
  simp only [nextElement, skipBlanks_gap]

theorem nextElement_close (s : Text) : nextElement care first (']' :: s) = .ok (.close s) := rfl

theorem skipBlanks_skipBlanks (s : Text) : skipBlanks (skipBlanks s) = skipBlanks s :=
  Text.dropWhile_eq_self (Text.maximalRun_takeWhile isBlank s).ends

/-- An element that begins with `c` is found behind its comma; a skimming reader
leaves the gap before it. -/
theorem nextElement_item (care : Care) (first : Bool) {s rest : Text} {c : Char}
    (hs : skipBlanks s = c :: rest) (hc : c ≠ ']') :
    ∃ after, nextElement care first (separator first ++ s) = .ok (.item after) ∧
      skipBlanks after = skipBlanks s := by
  have hsame : skipBlanks (c :: rest) = skipBlanks s := by rw [← hs, skipBlanks_skipBlanks]
  cases first with
  | true =>
      refine ⟨c :: rest, ?_, hsame⟩
      simp [separator, nextElement, hs, hc]
  | false =>
      have hcomma : skipBlanks (',' :: s) = ',' :: s := rfl
      cases care with
      | skim => exact ⟨s, by simp [separator, nextElement, hcomma], rfl⟩
      | full =>
          refine ⟨c :: rest, ?_, hsame⟩
          simp [separator, nextElement, hcomma, hs, hc]

@[simp] theorem nextKey_gap (gap : Gap) (s : Text) :
    nextKey care first (gap.text ++ s) = nextKey care first s := by
  simp only [nextKey, skipBlanks_gap]

theorem nextKey_close (s : Text) : nextKey care first ('\x7d' :: s) = .ok (.close s) := rfl

theorem nextKey_quote {s rest : Text} (hs : skipBlanks s = '"' :: rest) :
    nextKey care first (separator first ++ s) = .ok (.item rest) := by
  cases first with
  | true =>
      simp only [separator, if_true, List.nil_append, nextKey, hs]
      rfl
  | false =>
      have hcomma : skipBlanks (',' :: s) = ',' :: s := rfl
      cases care <;> simp [separator, nextKey, hcomma, hs, openKey]

end Steps

section Frame
variable (frame : Frame) (s : Text)

def Frame.behindKey : Text := frame.beforeColon.text ++ ':' :: (frame.afterColon.text ++ s)

/-- The key of a member is found behind its comma. -/
theorem nextKey_frame (care : Care) (first : Bool) :
    nextKey care first (separator first ++ (frame.text ++ s)) =
      .ok (.item (frame.key.text ++ '"' :: frame.behindKey s)) := by
  apply nextKey_quote
  simp only [Frame.text, Frame.behindKey, List.append_assoc, List.cons_append,
    Literal.quotedText_append, skipBlanks_gap]
  rfl

theorem readColon_behindKey : readColon (frame.behindKey s) = .ok (frame.afterColon.text ++ s) := by
  simp only [readColon, Frame.behindKey, skipBlanks_gap]
  rfl

end Frame

/-- A value depends on no blanks before it. -/
theorem passValue_congr {care : Care} {fuel : Nat} {levels : Option Nat} {s t : Text}
    (h : skipBlanks s = skipBlanks t) :
    passValue care fuel levels s = passValue care fuel levels t := by
  cases fuel with
  | zero => rfl
  | succ fuel => simp only [passValue, h]

theorem passElements_gap {care : Care} {fuel : Nat} {first : Bool} {levels : Option Nat} (gap : Gap)
    (s : Text) :
    passElements care fuel first levels (gap.text ++ s) = passElements care fuel first levels s := by
  cases fuel with
  | zero => rfl
  | succ fuel => simp only [passElements, nextElement_gap]

theorem passMembers_gap {care : Care} {fuel : Nat} {first : Bool} {levels : Option Nat} (gap : Gap)
    (s : Text) :
    passMembers care fuel first levels (gap.text ++ s) = passMembers care fuel first levels s := by
  cases fuel with
  | zero => rfl
  | succ fuel => simp only [passMembers, nextKey_gap]

/-! ## Passing over a value -/

/-- The text may follow a value. -/
def Delimited (s : Text) : Prop := ∀ c ∈ s.head?, isBlank c = true ∨ c = ',' ∨ c = ']' ∨ c = '\x7d'

theorem delimited_of_cons {c : Char} (h : isBlank c = true ∨ c = ',' ∨ c = ']' ∨ c = '\x7d')
    (s : Text) : Delimited (c :: s) := by
  intro d hd
  obtain rfl := Option.some.inj hd
  exact h

theorem delimited_gap (gap : Gap) {s : Text} (h : Delimited s) : Delimited (gap.text ++ s) := by
  cases gap with
  | nil => exact h
  | cons b gap => exact delimited_of_cons (Or.inl b.isBlank_char) _

theorem delimited_closeList (gap : Gap) (s : Text) : Delimited (gap.text ++ ']' :: s) :=
  delimited_gap gap (delimited_of_cons (Or.inr (Or.inr (Or.inl rfl))) s)

theorem delimited_closeObject (gap : Gap) (s : Text) : Delimited (gap.text ++ '\x7d' :: s) :=
  delimited_gap gap (delimited_of_cons (Or.inr (Or.inr (Or.inr rfl))) s)

theorem Delimited.ends {s : Text} (h : Delimited s) : Numeral.Ends s := by
  intro c hc
  rcases h c hc with hblank | rfl | rfl | rfl
  · simp only [isBlank, Bool.or_eq_true, beq_iff_eq] at hblank
    rcases hblank with ((rfl | rfl) | rfl) | rfl <;> decide
  all_goals decide

section Followed
variable {s : Text}

theorem Elements.delimited (elements : Elements) (h : Delimited s) :
    Delimited (elements.text false ++ s) := by
  cases elements with
  | nil => exact h
  | cons before value after rest => exact delimited_of_cons (Or.inr (Or.inl rfl)) _

theorem Members.delimited (members : Members) (h : Delimited s) :
    Delimited (members.text false ++ s) := by
  cases members with
  | nil => exact h
  | cons frame value rest => exact delimited_of_cons (Or.inr (Or.inl rfl)) _

end Followed

/-- The first character of a number begins no other value. -/
theorem ne_of_isNumberStart {c : Char} (h : c = '-' ∨ Numeral.isDigit c = true) {d : Char}
    (hminus : d ≠ '-') (hdigit : Numeral.isDigit d = false) : c ≠ d := by
  rintro rfl
  rcases h with h | h
  · exact hminus h
  · rw [hdigit] at h
    exact Bool.noConfusion h

/-- A value begins with a character that is no blank and closes nothing. -/
theorem Tree.text_head (t : Tree) : ∃ c rest, t.text = c :: rest ∧ isBlank c = false ∧ c ≠ ']' := by
  cases t with
  | null => exact ⟨_, _, rfl, rfl, by decide⟩
  | boolean b => cases b <;> exact ⟨_, _, rfl, rfl, by decide⟩
  | number n =>
      obtain ⟨c, rest, htext, hc⟩ := Numeral.text_head n
      refine ⟨c, rest, htext, ?_, ne_of_isNumberStart hc (by decide) rfl⟩
      simp only [isBlank, Bool.or_eq_false_iff, beq_eq_false_iff_ne]
      exact ⟨⟨⟨ne_of_isNumberStart hc (by decide) rfl, ne_of_isNumberStart hc (by decide) rfl⟩,
        ne_of_isNumberStart hc (by decide) rfl⟩, ne_of_isNumberStart hc (by decide) rfl⟩
  | literal l => exact ⟨_, _, rfl, rfl, by decide⟩
  | list elements gap => exact ⟨_, _, by rw [Tree.text], rfl, by decide⟩
  | object members gap => exact ⟨_, _, by rw [Tree.text], rfl, by decide⟩

theorem Tree.length_pos (t : Tree) : 0 < t.text.length := by
  obtain ⟨c, rest, htext, -⟩ := t.text_head
  simp [htext]

theorem skipBlanks_tree (t : Tree) (s : Text) : skipBlanks (t.text ++ s) = t.text ++ s := by
  obtain ⟨c, rest, htext, hblank, -⟩ := t.text_head
  rw [htext]
  exact skipBlanks_cons hblank _

theorem passValue_number {care : Care} {fuel : Nat} {levels : Option Nat} (n : NumberText)
    (s : Text) :
    passValue care (fuel + 1) levels (n.text ++ s) = passNumber care (n.text ++ s) := by
  obtain ⟨c, rest, htext, hc⟩ := Numeral.text_head n
  have hblank : skipBlanks (n.text ++ s) = n.text ++ s := skipBlanks_tree (.number n) s
  have hn : c ≠ 'n' := ne_of_isNumberStart hc (by decide) rfl
  have ht : c ≠ 't' := ne_of_isNumberStart hc (by decide) rfl
  have hf : c ≠ 'f' := ne_of_isNumberStart hc (by decide) rfl
  have hquote : c ≠ '"' := ne_of_isNumberStart hc (by decide) rfl
  rw [passValue, hblank, htext, List.cons_append]
  simp only [hn, ht, hf, hquote, hc, if_true, if_false]

section Step
variable {care : Care} {fuel : Nat} {first : Bool} {value : Tree} {tail : Text}

theorem nextElement_tree (care : Care) (first : Bool) (before : Gap) (value : Tree) (tail : Text) :
    ∃ after, nextElement care first (separator first ++ (before.text ++ (value.text ++ tail))) =
        .ok (.item after) ∧ skipBlanks after = value.text ++ tail := by
  obtain ⟨c, rest, htext, -, hc⟩ := value.text_head
  have hhead : skipBlanks (before.text ++ (value.text ++ tail)) = value.text ++ tail := by
    rw [skipBlanks_gap, skipBlanks_tree]
  obtain ⟨after, hitem, hafter⟩ := nextElement_item care first
    (hhead.trans (congrArg (· ++ tail) htext)) hc
  exact ⟨after, hitem, hafter.trans hhead⟩

theorem passElements_step (before : Gap)
    (hvalue : passValue care fuel none (value.text ++ tail) = .ok tail) :
    passElements care (fuel + 1) first none
        (separator first ++ (before.text ++ (value.text ++ tail))) =
      passElements care fuel false none tail := by
  obtain ⟨after, hitem, hafter⟩ := nextElement_tree care first before value tail
  have hread : passValue care fuel none after = .ok tail := by
    rw [passValue_congr (hafter.trans (skipBlanks_tree value tail).symm)]
    exact hvalue
  simp only [passElements, hitem, bind, Except.bind, hread]

theorem passMembers_step (frame : Frame)
    (hvalue : passValue .skim fuel none (value.text ++ tail) = .ok tail) :
    passMembers .skim (fuel + 1) first none
        (separator first ++ (frame.text ++ (value.text ++ tail))) =
      passMembers .skim fuel false none tail := by
  obtain ⟨cs, hkey⟩ :=
    readChars_skim_literal frame.key (frame.behindKey (value.text ++ tail))
  have hread : passValue .skim fuel none (frame.afterColon.text ++ (value.text ++ tail)) =
      .ok tail := by
    rw [passValue_congr (skipBlanks_gap frame.afterColon _)]
    exact hvalue
  simp only [passMembers, nextKey_frame, bind, Except.bind, hkey, readColon_behindKey, hread]

end Step

/-! ## The run -/

-- A list takes one unit of fuel for itself and one for each step, and each of its
-- elements has a character at least; so two units a character are enough at any depth.
mutual

theorem passValue_tree (t : Tree) {fuel : Nat} (hfuel : 2 * t.text.length ≤ fuel) {s : Text}
    (hs : Delimited s) : passValue .skim fuel none (t.text ++ s) = .ok s := by
  have hlength := t.length_pos
  obtain ⟨fuel, rfl⟩ : ∃ n, fuel = n + 1 := ⟨fuel - 1, by omega⟩
  match t with
  | .null => rfl
  | .boolean true => rfl
  | .boolean false => rfl
  | .number n =>
      rw [Tree.text, passValue_number, passNumber]
      exact Numeral.skip_text n hs.ends
  | .literal l =>
      obtain ⟨cs, hcs⟩ := readChars_skim_literal l s
      have hopen : passValue .skim (fuel + 1) none ('"' :: (l.text ++ '"' :: s)) =
          (readChars .skim (l.text ++ '"' :: s)).map (·.2) := rfl
      rw [Tree.text, Literal.quotedText_append, hopen, hcs]
      rfl
  | .list elements gap =>
      have hopen : passValue .skim (fuel + 1) none ((Tree.list elements gap).text ++ s) =
          passElements .skim fuel true none (elements.text true ++ (gap.text ++ ']' :: s)) := by
        simp only [Tree.text, List.cons_append, List.append_assoc, List.nil_append]
        rfl
      simp only [Tree.text, List.length_cons, List.length_append] at hfuel
      rw [hopen]
      exact passElements_elements elements (by omega) gap s
  | .object members gap =>
      have hopen : passValue .skim (fuel + 1) none ((Tree.object members gap).text ++ s) =
          passMembers .skim fuel true none (members.text true ++ (gap.text ++ '\x7d' :: s)) := by
        simp only [Tree.text, List.cons_append, List.append_assoc, List.nil_append]
        rfl
      simp only [Tree.text, List.length_cons, List.length_append] at hfuel
      rw [hopen]
      exact passMembers_members members (by omega) gap s

theorem passElements_elements (elements : Elements) {fuel : Nat} {first : Bool}
    (hfuel : 2 * (elements.text first).length + 1 ≤ fuel) (gap : Gap) (s : Text) :
    passElements .skim fuel first none (elements.text first ++ (gap.text ++ ']' :: s)) = .ok s := by
  obtain ⟨fuel, rfl⟩ : ∃ n, fuel = n + 1 := ⟨fuel - 1, by omega⟩
  match elements with
  | .nil =>
      simp only [Elements.text, List.nil_append, passElements, nextElement_gap, nextElement_close]
      rfl
  | .cons before value after rest =>
      have hlength := value.length_pos
      simp only [Elements.text, List.length_append] at hfuel
      have htail := delimited_gap after (rest.delimited (delimited_closeList gap s))
      have hvalue : passValue .skim fuel none _ = _ := passValue_tree value (by omega) htail
      have hrest : passElements .skim fuel false none _ = _ :=
        passElements_elements rest (by omega) gap s
      simp only [Elements.text, List.append_assoc]
      rw [passElements_step before hvalue, passElements_gap]
      exact hrest

theorem passMembers_members (members : Members) {fuel : Nat} {first : Bool}
    (hfuel : 2 * (members.text first).length + 1 ≤ fuel) (gap : Gap) (s : Text) :
    passMembers .skim fuel first none (members.text first ++ (gap.text ++ '\x7d' :: s)) = .ok s := by
  obtain ⟨fuel, rfl⟩ : ∃ n, fuel = n + 1 := ⟨fuel - 1, by omega⟩
  match members with
  | .nil =>
      simp only [Members.text, List.nil_append, passMembers, nextKey_gap, nextKey_close]
      rfl
  | .cons frame value rest =>
      have hlength := value.length_pos
      simp only [Members.text, List.length_append] at hfuel
      have htail := delimited_gap frame.afterValue (rest.delimited (delimited_closeObject gap s))
      have hvalue : passValue .skim fuel none _ = _ := passValue_tree value (by omega) htail
      have hrest : passMembers .skim fuel false none _ = _ :=
        passMembers_members rest (by omega) gap s
      simp only [Members.text, List.append_assoc]
      rw [passMembers_step frame hvalue, passMembers_gap]
      exact hrest

end

/-- A value of any depth is passed over, with all that is in it. -/
theorem skipValue_tree (gap : Gap) (t : Tree) {s : Text} (hs : Delimited s) :
    skipValue (gap.text ++ (t.text ++ s)) = .ok s := by
  rw [skipValue, passValue_congr (skipBlanks_gap gap _)]
  apply passValue_tree t _ hs
  simp only [List.length_append]
  omega

end ContentVisibility.Json
