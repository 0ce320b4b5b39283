import ContentVisibility.Json.Printer
import ContentVisibility.Proofs.Json.Record
import ContentVisibility.Proofs.Text.Parts

/-! # Written values are well formed

What is written is the text of a tree without gaps, whose literals spell the
texts that were to be written. -/
set_option autoImplicit false

namespace ContentVisibility.Json

def Tree.ofText (s : Text) : Tree := .literal (.ofText s)

theorem Tree.text_ofText (s : Text) : (Tree.ofText s).text = quoted s := by
  rw [ofText, text, Literal.quotedText_ofText]

def Elements.ofList : List Tree → Elements
  | [] => .nil
  | t :: rest => .cons [] t [] (ofList rest)

def Tree.ofList (ts : List Tree) : Tree := .list (.ofList ts) []

theorem Elements.text_ofList_false (ts : List Tree) :
    (ofList ts).text false = (ts.map Tree.text).flatMap (',' :: ·) := by
  induction ts with
  | nil => rfl
  | cons t rest ih => simp [ofList, text, Gap.text, separator, ih]

theorem Tree.text_ofList (ts : List Tree) :
    (Tree.ofList ts).text = listText (ts.map Tree.text) := by
  cases ts with
  | nil => rfl
  | cons t rest =>
      simp [ofList, text, listText, Elements.ofList, Elements.text, Elements.text_ofList_false,
        Gap.text, separator, Text.joined_cons]

theorem Elements.values?_ofText (names : List Text) :
    (ofList (names.map .ofText)).values? Tree.spelled? = some names := by
  induction names with
  | nil => rfl
  | cons name rest ih =>
      have hname : (Tree.ofText name).spelled? = some name := Literal.spelled?_ofText name
      simp [ofList, values?, hname, ih]

def Members.ofList : List (Text × Tree) → Members
  | [] => .nil
  | (name, value) :: rest => .cons { key := .ofText name } value (ofList rest)

theorem Members.toList_ofList (ms : List (Text × Tree)) :
    (ofList ms).toList = ms.map fun (name, value) => ⟨{ key := .ofText name }, value⟩ := by
  induction ms with
  | nil => rfl
  | cons m rest ih => simp [ofList, toList, ih]

def Tree.ofMembers (ms : List (Text × Tree)) : Tree := .object (.ofList ms) []

theorem Members.text_ofList_false (ms : List (Text × Tree)) :
    (ofList ms).text false =
      (ms.map fun (name, value) => memberText name value.text).flatMap (',' :: ·) := by
  induction ms with
  | nil => rfl
  | cons m rest ih =>
      simp [ofList, text, Frame.text, memberText, Literal.quotedText_ofText, Gap.text, separator,
        ih]

theorem Tree.text_ofMembers (ms : List (Text × Tree)) :
    (Tree.ofMembers ms).text = objectText (ms.map fun (name, value) => (name, value.text)) := by
  cases ms with
  | nil => rfl
  | cons m rest =>
      simp [ofMembers, text, objectText, Members.ofList, Members.text, Members.text_ofList_false,
        Frame.text, memberText, Literal.quotedText_ofText, Gap.text, separator, Text.joined_cons,
        Function.comp_def]

end ContentVisibility.Json
