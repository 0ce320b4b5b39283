import ContentVisibility.Settings.Environment
import ContentVisibility.Text.Blank
import ContentVisibility.Text.Cut

/-! # Files of assignments

Each line of a file of assignments is blank, a comment, or a name, an equals
sign and a value.  A value ends at a blank, after which only a comment may
follow; quotes and backslashes keep blanks, and a dollar sign stands for the
value of a variable.  A quote that is still open at the end of a line goes on in
the next one.  At a line that is none of these the file ends: what stands before
it counts.  No assignment changes a variable that is already set. -/
set_option autoImplicit false

namespace ContentVisibility

namespace Assignments

/-! ## Lines of a file -/

/-- Every piece but the last is a line with its line feed; the last is a line if
it is not empty. -/
def withLineFeeds : List Text → List Text
  | [] => []
  | [s] => if s.isEmpty then [] else [s]
  | s :: t :: rest => (s ++ ['\n']) :: withLineFeeds (t :: rest)

def lines (file : Text) : List Text := withLineFeeds (Text.pieces '\n' file)

theorem flatten_withLineFeeds (ps : List Text) :
    (withLineFeeds ps).flatten = Text.joined '\n' ps := by
  induction ps with
  | nil => rfl
  | cons s rest ih =>
      cases rest with
      | nil => cases s <;> simp [withLineFeeds, Text.joined]
      | cons t rest => simp [withLineFeeds, Text.joined, ih]

@[simp] theorem flatten_lines (file : Text) : (lines file).flatten = file := by
  rw [lines, flatten_withLineFeeds, Text.joined_pieces]

/-! ## What a line leaves open -/

inductive Pending where
  | nothing
  /-- The last character is a blank that may stand before a comment. -/
  | gap
  | escape
  | quote (mark : Char)
  | quoteEscape (mark : Char)
  deriving DecidableEq

namespace Pending

/-- What a character opens outside quotes. -/
def opened (c : Char) : Pending :=
  if c = '\\' then .escape
  else if c = '"' ∨ c = '\'' then .quote c
  else .nothing

/-- Only a blank that follows no gap is a gap, so of several blanks in a row
every other one is. -/
def step : Pending → Char → Pending
  | .nothing, c =>
      if Text.isBlank c ∧ c ≠ '\n' ∧ c ≠ '\r' then .gap else opened c
  | .gap, c => opened c
  | .escape, _ => .nothing
  | .quote mark, c =>
      if c = '\\' then .quoteEscape mark else if c = mark then .nothing else .quote mark
  | .quoteEscape mark, _ => .quote mark

end Pending

/-- The line up to a comment that starts after a gap, and what the line leaves
open; a comment closes everything. -/
def scan : Pending → Text → Text × Pending
  | p, [] => ([], p)
  | p, c :: rest =>
      if p = .gap ∧ c = '#' then ([], .nothing)
      else
        let (before, q) := scan (p.step c) rest
        (c :: before, q)

def isComment (s : Text) : Bool := (Text.trimStart s).head? == some '#'

/-- The lines that the given ones make, after a front that leaves `p` open.  The
last is absent if the file ends before it does. -/
def gather (p : Pending) (front : Text) : List Text → List (Option Text)
  | [] => if p = .nothing then [] else [none]
  | s :: rest =>
      if isComment (front ++ s) then gather .nothing [] rest
      else
        match scan p s with
        | (before, .nothing) => some (front ++ before) :: gather .nothing [] rest
        | (before, q) => gather q (front ++ before) rest

/-! ## Values -/

/-- How the next character of a value is taken; a flag says whether a double
quote is open. -/
inductive Reading where
  | plain (quoted : Bool)
  | escape (quoted : Bool)
  /-- Within single quotes every character stands for itself. -/
  | literal
  | reference (quoted : Bool) (name : Text)
  | bracedReference (quoted : Bool) (name : Text)
  /-- Only a comment may follow. -/
  | ended
  deriving DecidableEq

def isGap (c : Char) : Bool := c == ' ' || c == '\t'

/-- What a character after a backslash stands for. -/
def escaped? (c : Char) : Option Char :=
  if c ∈ ['\\', '\'', '"', '$', ' '] then some c
  else if c = 'n' then some '\n'
  else none

/-- The value that is read from the text, if it is well formed. -/
def readValue (env : Environment) : Text → Reading → Option Text
  | [], .plain quoted => if quoted then none else some []
  | [], .escape quoted => if quoted then none else some []
  | [], .literal => none
  | [], .reference quoted name => if quoted then none else some (env.valueOf name)
  | [], .bracedReference _ _ => none
  | [], .ended => some []
  | c :: rest, .plain quoted =>
      if c = '$' then readValue env rest (.reference quoted [])
      else if c = '\\' then readValue env rest (.escape quoted)
      else if c = '"' then readValue env rest (.plain !quoted)
      else if quoted then (readValue env rest (.plain true)).map (c :: ·)
      else if c = '\'' then readValue env rest .literal
      else if isGap c then readValue env rest .ended
      else (readValue env rest (.plain false)).map (c :: ·)
  | c :: rest, .escape quoted =>
      match escaped? c with
      | some d => (readValue env rest (.plain quoted)).map (d :: ·)
      | none => none
  | c :: rest, .literal =>
      if c = '\'' then readValue env rest (.plain false)
      else (readValue env rest .literal).map (c :: ·)
  | c :: rest, .reference quoted name =>
      if c.isAlphanum then readValue env rest (.reference quoted (name ++ [c]))
      else if c = '\x7b' ∧ name = [] then readValue env rest (.bracedReference quoted [])
      else if c = '$' then
        (readValue env rest (.reference quoted [])).map (env.valueOf name ++ ·)
      else (readValue env rest (.plain quoted)).map (env.valueOf name ++ c :: ·)
  | c :: rest, .bracedReference quoted name =>
      if c = '\x7d' then (readValue env rest (.plain quoted)).map (env.valueOf name ++ ·)
      else readValue env rest (.bracedReference quoted (name ++ [c]))
  | c :: rest, .ended =>
      if c = '#' then some []
      else if isGap c then readValue env rest .ended
      else none

/-! ## Assignments -/

inductive Line where
  | nothing
  | assignment (name value : Text)
  | malformed
  deriving DecidableEq

def isNameStart (c : Char) : Bool := c.isAlpha || c == '_'

def isNamePart (c : Char) : Bool := c.isAlphanum || c == '_' || c == '.'

def exportWord : Text := "export".toList

/-- A name and what follows it. -/
def readName? (s : Text) : Option (Text × Text) :=
  if s.head?.any isNameStart then
    some (s.takeWhile isNamePart, Text.trimStart (s.dropWhile isNamePart))
  else none

/-- The name that is assigned to and what follows the equals sign; `export` may
stand before the name. -/
def readTarget? (s : Text) : Option (Text × Text) :=
  match readName? s with
  | none => none
  | some (name, '=' :: rest) => some (name, rest)
  | some (word, rest) =>
      if word = exportWord then
        match readName? rest with
        | some (name, '=' :: rest) => some (name, rest)
        | _ => none
      else none

/-- Nothing remains, or a comment. -/
def isOver (s : Text) : Bool := s.isEmpty || s.head? == some '#'

/-- The assignment that the line makes in the environment. -/
def Line.read (env : Environment) (line : Text) : Line :=
  let s := Text.trim line
  if isOver s then .nothing
  else
    match readTarget? s with
    | none => .malformed
    | some (name, rest) =>
        let rest := Text.trimStart rest
        if isOver rest then .assignment name []
        else
          match readValue env rest (.plain false) with
          | some value => .assignment name value
          | none => .malformed

def addLines (env : Environment) : List (Option Text) → Environment
  | [] => env
  | none :: _ => env
  | some line :: rest =>
      match Line.read env line with
      | .nothing => addLines env rest
      | .assignment name value => addLines (env.add name value) rest
      | .malformed => env

/-- A byte order mark may stand before the first line. -/
def withoutMark : Text → Text
  | [] => []
  | c :: rest => if c = '\uFEFF' then rest else c :: rest

theorem get?_addLines_of_some {x v : Text} (ls : List (Option Text)) :
    ∀ {env : Environment}, env.get? x = some v → (addLines env ls).get? x = some v := by
  induction ls with
  | nil => intro env h; exact h
  | cons l rest ih =>
      intro env h
      cases l with
      | none => exact h
      | some line =>
          simp only [addLines]
          split
          · exact ih h
          · exact ih (Environment.get?_add_of_some h _ _)
          · exact h

end Assignments

/-- The environment with the variables that the file sets. -/
def Environment.addFile (env : Environment) (file : Text) : Environment :=
  Assignments.addLines env
    (Assignments.gather .nothing [] (Assignments.lines (Assignments.withoutMark file)))

/-- A file changes no variable that is already set. -/
theorem Environment.get?_addFile_of_some {env : Environment} {x v : Text}
    (h : env.get? x = some v) (file : Text) : (env.addFile file).get? x = some v :=
  Assignments.get?_addLines_of_some _ h

end ContentVisibility
