import ContentVisibility.Json.Reader

/-! # Texts in JSON

A text stands between double quotes.  A backslash starts an escape: one letter,
or `u` and four hexadecimal digits, two such escapes making one character beyond
the first 65536.  Writing escapes quotes, backslashes and controls and nothing
else. -/
set_option autoImplicit false

namespace ContentVisibility.Json

/-! ## Escapes -/

def hexValue? (c : Char) : Option Nat :=
  let n := c.toNat
  if '0' ≤ c ∧ c ≤ '9' then some (n - '0'.toNat)
  else if 'a' ≤ c ∧ c ≤ 'f' then some (n - 'a'.toNat + 10)
  else if 'A' ≤ c ∧ c ≤ 'F' then some (n - 'A'.toNat + 10)
  else none

/-- Four hexadecimal digits, for which four bytes must be left. -/
def readHex (s : Text) : Except Error (Nat × Text) :=
  match s with
  | a :: b :: c :: d :: rest =>
      match hexValue? a, hexValue? b, hexValue? c, hexValue? d with
      | some a, some b, some c, some d => .ok (((a * 16 + b) * 16 + c) * 16 + d, rest)
      | _, _, _, _ => .error .invalidEscape
  | _ => if Text.utf8Size s < 4 then .error .endInText else .error .invalidEscape

def isLeading (n : Nat) : Bool := 0xD800 ≤ n && n ≤ 0xDBFF

def isTrailing (n : Nat) : Bool := 0xDC00 ≤ n && n ≤ 0xDFFF

/-- What follows a backslash and the given letter. -/
def readEscapeOf (letter : Char) (s : Text) : Except Error Text :=
  match s with
  | [] => .error .endInText
  | c :: rest =>
      if c ≠ '\\' then .error .unfinishedSurrogatePair
      else
        match rest with
        | [] => .error .endInText
        | d :: after => if d = letter then .ok after else .error .unfinishedSurrogatePair

/-- The second half of a pair whose first half is read. -/
def readTrailing (leading : Nat) (s : Text) : Except Error (Char × Text) :=
  match readEscapeOf 'u' s with
  | .error e => .error e
  | .ok s =>
      match readHex s with
      | .error e => .error e
      | .ok (trailing, rest) =>
          if isTrailing trailing then
            .ok (Char.ofNat (0x10000 + (leading - 0xD800) * 0x400 + (trailing - 0xDC00)), rest)
          else .error .loneSurrogate

/-- The escape whose `u` is read.  Skimming takes every four digits for a
character. -/
def readUnicodeEscape (care : Care) (s : Text) : Except Error (Char × Text) :=
  match readHex s with
  | .error e => .error e
  | .ok (n, rest) =>
      if care = .skim then .ok (Char.ofNat n, rest)
      else if isTrailing n then .error .loneSurrogate
      else if isLeading n then readTrailing n rest
      else .ok (Char.ofNat n, rest)

/-- The escapes of one letter. -/
def shortEscape? (c : Char) : Option Char :=
  if c = '"' ∨ c = '\\' ∨ c = '/' then some c
  else if c = 'b' then some '\x08'
  else if c = 'f' then some '\x0c'
  else if c = 'n' then some '\n'
  else if c = 'r' then some '\r'
  else if c = 't' then some '\t'
  else none

/-! ## Reading -/

/-- The escape whose backslash is read. -/
def readEscape (care : Care) (s : Text) : Except Error (Char × Text) :=
  match s with
  | [] => .error .endInText
  | c :: rest =>
      match shortEscape? c with
      | some d => .ok (d, rest)
      | none => if c = 'u' then readUnicodeEscape care rest else .error .invalidEscape

/-- The next character of a text, or its closing quote. -/
def readChar? (care : Care) (s : Text) : Except Error (Option Char × Text) :=
  match s with
  | [] => .error .endInText
  | c :: rest =>
      if c = '"' then .ok (none, rest)
      else if c.toNat < 0x20 then .error .controlCharacter
      else if c = '\\' then
        match readEscape care rest with
        | .error e => .error e
        | .ok (d, after) => .ok (some d, after)
      else .ok (some c, rest)

theorem length_of_readHex {s rest : Text} {n : Nat} (h : readHex s = .ok (n, rest)) :
    rest.length < s.length := by
  unfold readHex at h
  grind

theorem length_of_readEscapeOf {letter : Char} {s rest : Text}
    (h : readEscapeOf letter s = .ok rest) : rest.length < s.length := by
  unfold readEscapeOf at h
  grind

theorem length_of_readTrailing {leading : Nat} {s rest : Text} {c : Char}
    (h : readTrailing leading s = .ok (c, rest)) : rest.length < s.length := by
  unfold readTrailing at h
  grind [→ length_of_readHex, → length_of_readEscapeOf]

theorem length_of_readUnicodeEscape {care : Care} {s rest : Text} {c : Char}
    (h : readUnicodeEscape care s = .ok (c, rest)) : rest.length < s.length := by
  unfold readUnicodeEscape at h
  grind [→ length_of_readHex, → length_of_readTrailing]

theorem length_of_readEscape {care : Care} {s rest : Text} {c : Char}
    (h : readEscape care s = .ok (c, rest)) : rest.length < s.length := by
  unfold readEscape at h
  grind [→ length_of_readUnicodeEscape]

theorem length_of_readChar? {care : Care} {s rest : Text} {c : Option Char}
    (h : readChar? care s = .ok (c, rest)) : rest.length < s.length := by
  unfold readChar? at h
  grind [→ length_of_readEscape]

/-- The text up to the closing quote; the opening one is read. -/
def readChars (care : Care) (s : Text) : Except Error (Text × Text) :=
  match _found : readChar? care s with
  | .error e => .error e
  | .ok (none, rest) => .ok ([], rest)
  | .ok (some c, rest) =>
      match readChars care rest with
      | .error e => .error e
      | .ok (cs, after) => .ok (c :: cs, after)
termination_by s.length
decreasing_by exact length_of_readChar? _found

theorem readChars_of_close {care : Care} {s rest : Text} (h : readChar? care s = .ok (none, rest)) :
    readChars care s = .ok ([], rest) := by
  rw [readChars]
  split
  · rename_i hs
    rw [h] at hs
    simp at hs
  · rename_i hs
    rw [h] at hs
    obtain ⟨_, rfl⟩ := Prod.mk.inj (Except.ok.inj hs)
    rfl
  · rename_i hs
    rw [h] at hs
    simp at hs

theorem readChars_of_char {care : Care} {s rest after cs : Text} {c : Char}
    (h : readChar? care s = .ok (some c, rest)) (hrest : readChars care rest = .ok (cs, after)) :
    readChars care s = .ok (c :: cs, after) := by
  rw [readChars]
  split
  · rename_i hs
    rw [h] at hs
    simp at hs
  · rename_i hs
    rw [h] at hs
    simp at hs
  · rename_i hs
    rw [h] at hs
    obtain ⟨hc, rfl⟩ := Prod.mk.inj (Except.ok.inj hs)
    obtain rfl := Option.some.inj hc
    rw [hrest]

/-! ## Writing -/

def hexDigit (n : Nat) : Char := Nat.digitChar (n % 16)

def escaped (c : Char) : Text :=
  if c = '"' then ['\\', '"']
  else if c = '\\' then ['\\', '\\']
  else if c = '\x08' then ['\\', 'b']
  else if c = '\x0c' then ['\\', 'f']
  else if c = '\n' then ['\\', 'n']
  else if c = '\r' then ['\\', 'r']
  else if c = '\t' then ['\\', 't']
  else if c.toNat < 0x20 then ['\\', 'u', '0', '0', hexDigit (c.toNat / 16), hexDigit c.toNat]
  else [c]

def quoted (s : Text) : Text := '"' :: (s.flatMap escaped ++ ['"'])

end ContentVisibility.Json
