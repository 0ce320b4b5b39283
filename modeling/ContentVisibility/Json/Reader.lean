import ContentVisibility.Json.Error

/-! # Steps of reading JSON

Reading takes what it reads from the front of a text and leaves the rest.  A
value may be read in full or be skimmed; a skimmed value is only passed over, so
less is asked of it. -/
set_option autoImplicit false

namespace ContentVisibility.Json

/-- What is read, and the text after it. -/
abbrev Reader (α : Type) := Text → Except Error (α × Text)

inductive Care where
  | full
  | skim
  deriving DecidableEq

def isBlank (c : Char) : Bool := c == ' ' || c == '\t' || c == '\n' || c == '\r'

def skipBlanks (s : Text) : Text := s.dropWhile isBlank

/-- The rest of a word whose first letter is already read. -/
def readWord : (word s : Text) → Except Error Text
  | [], s => .ok s
  | _ :: _, [] => .error .endInValue
  | w :: word, c :: rest => if w = c then readWord word rest else .error .expectedWord

/-- Nothing but blanks may follow the value of a document. -/
def finish (s : Text) : Except Error Unit :=
  if (skipBlanks s).isEmpty then .ok () else .error .trailingCharacters

/-! ## Lists and objects -/

/-- Whether another member follows, with the text from there on. -/
inductive Step where
  | item (rest : Text)
  | close (rest : Text)
  deriving DecidableEq

/-- Towards the next element of a list, which starts at the given rest. -/
def nextElement (care : Care) (first : Bool) (s : Text) : Except Error Step :=
  match skipBlanks s with
  | [] => .error .endInList
  | c :: rest =>
      if c = ']' then .ok (.close rest)
      else if first then .ok (.item (c :: rest))
      else if c = ',' then
        match care, skipBlanks rest with
        | .skim, _ => .ok (.item rest)
        | .full, [] => .error .endInValue
        | .full, d :: after => if d = ']' then .error .trailingComma else .ok (.item (d :: after))
      else .error .expectedCommaOrBracket

/-- The opening quote of a key; its text starts at the given rest. -/
def openKey (s : Text) : Except Error Step :=
  match s with
  | c :: rest => if c = '"' then .ok (.item rest) else .error .keyNotText
  | [] => .error .endInObject

/-- Towards the next key of an object. -/
def nextKey (care : Care) (first : Bool) (s : Text) : Except Error Step :=
  match skipBlanks s with
  | [] => .error .endInObject
  | c :: rest =>
      if c = '\x7d' then .ok (.close rest)
      else if first then openKey (c :: rest)
      else if c = ',' then
        match care, skipBlanks rest with
        | .skim, after => openKey after
        | .full, [] => .error .endInValue
        | .full, d :: after =>
            if d = '\x7d' then .error .trailingComma else openKey (d :: after)
      else .error .expectedCommaOrBrace

def readColon (s : Text) : Except Error Text :=
  match skipBlanks s with
  | [] => .error .endInObject
  | c :: rest => if c = ':' then .ok rest else .error .expectedColon

/-- The end of a list of which every wanted element is read. -/
def closeList (s : Text) : Except Error Text :=
  match skipBlanks s with
  | [] => .error .endInList
  | c :: rest =>
      if c = ']' then .ok rest
      else if c = ',' ∧ (skipBlanks rest).head? = some ']' then .error .trailingComma
      else .error .trailingCharacters

end ContentVisibility.Json
