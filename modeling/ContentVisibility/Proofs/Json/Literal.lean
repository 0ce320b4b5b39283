import ContentVisibility.Json.Quoted

/-! # Written texts

Gaps of blanks may stand between the parts of a JSON value.  Between quotes a
character stands for itself or is written by an escape: one letter, or its
UTF-16 code units in hexadecimal digits of either case.  A literal that spells a
text is read as that text however it is written, and every literal, also one
with half a pair in it, is passed over when it is skimmed. -/
set_option autoImplicit false

namespace ContentVisibility.Json

inductive Blank where
  | space
  | tab
  | lineFeed
  | carriageReturn
  deriving DecidableEq

def Blank.char : Blank → Char
  | .space => ' '
  | .tab => '\t'
  | .lineFeed => '\n'
  | .carriageReturn => '\r'

abbrev Gap := List Blank

def Gap.text (gap : Gap) : Text := gap.map Blank.char

theorem Blank.isBlank_char (b : Blank) : isBlank b.char = true := by
  cases b <;> rfl

@[simp] theorem skipBlanks_gap (gap : Gap) (s : Text) :
    skipBlanks (gap.text ++ s) = skipBlanks s := by
  apply List.dropWhile_append_of_pos
  intro c hc
  obtain ⟨b, -, rfl⟩ := List.mem_map.mp hc
  exact b.isBlank_char

theorem skipBlanks_cons {c : Char} (h : isBlank c = false) (s : Text) :
    skipBlanks (c :: s) = c :: s :=
  List.dropWhile_cons_of_neg (Bool.eq_false_iff.mp h)

structure HexDigit where
  value : Fin 16
  isCapital : Bool := false
  deriving DecidableEq

def HexDigit.char (d : HexDigit) : Char :=
  if d.isCapital then (Nat.digitChar d.value).toUpper else Nat.digitChar d.value

structure CodeUnit where
  first : HexDigit
  second : HexDigit
  third : HexDigit
  fourth : HexDigit
  deriving DecidableEq

namespace CodeUnit

def value (u : CodeUnit) : Nat :=
  ((u.first.value * 16 + u.second.value) * 16 + u.third.value) * 16 + u.fourth.value

def digits (u : CodeUnit) : Text := [u.first.char, u.second.char, u.third.char, u.fourth.char]

def text (u : CodeUnit) : Text := '\\' :: 'u' :: u.digits

end CodeUnit

inductive ShortEscape where
  | quote
  | backslash
  | slash
  | backspace
  | formFeed
  | lineFeed
  | carriageReturn
  | tab
  deriving DecidableEq

namespace ShortEscape

def letter : ShortEscape → Char
  | .quote => '"'
  | .backslash => '\\'
  | .slash => '/'
  | .backspace => 'b'
  | .formFeed => 'f'
  | .lineFeed => 'n'
  | .carriageReturn => 'r'
  | .tab => 't'

def char : ShortEscape → Char
  | .quote => '"'
  | .backslash => '\\'
  | .slash => '/'
  | .backspace => '\x08'
  | .formFeed => '\x0c'
  | .lineFeed => '\n'
  | .carriageReturn => '\r'
  | .tab => '\t'

end ShortEscape

def utf16 (c : Char) : List Nat :=
  if c.toNat < 0x10000 then [c.toNat]
  else [0xD800 + (c.toNat - 0x10000) / 0x400, 0xDC00 + (c.toNat - 0x10000) % 0x400]

inductive Lexeme where
  | plain (c : Char) (writable : 0x20 ≤ c.toNat ∧ c ≠ '"' ∧ c ≠ '\\')
  | short (e : ShortEscape)
  | units (c : Char) (us : List CodeUnit) (encodes : us.map CodeUnit.value = utf16 c)
  /-- A code unit by itself, which may be half of a pair and then spells nothing. -/
  | lone (u : CodeUnit)

namespace Lexeme

def text : Lexeme → Text
  | .plain c _ => [c]
  | .short e => ['\\', e.letter]
  | .units _ us _ => us.flatMap CodeUnit.text
  | .lone u => u.text

def char? : Lexeme → Option Char
  | .plain c _ => some c
  | .short e => some e.char
  | .units c _ _ => some c
  | .lone _ => none

end Lexeme

abbrev Literal := List Lexeme

namespace Literal

def text (l : Literal) : Text := l.flatMap Lexeme.text

/-- The text that the literal spells, if every code unit in it belongs to a character. -/
def spelled? (l : Literal) : Option Text := l.mapM Lexeme.char?

def quotedText (l : Literal) : Text := '"' :: (l.text ++ ['"'])

@[simp] theorem quotedText_append (l : Literal) (s : Text) :
    l.quotedText ++ s = '"' :: (l.text ++ '"' :: s) := by
  simp [quotedText]

end Literal

/-! ## Reading a lexeme -/

theorem hexValue?_char (d : HexDigit) : hexValue? d.char = some d.value.val := by
  obtain ⟨value, isCapital⟩ := d
  revert value isCapital
  decide

theorem readHex_digits (u : CodeUnit) (s : Text) : readHex (u.digits ++ s) = .ok (u.value, s) := by
  simp only [CodeUnit.digits, List.cons_append, List.nil_append, readHex, hexValue?_char]
  rfl

theorem shortEscape?_letter (e : ShortEscape) : shortEscape? e.letter = some e.char := by
  cases e <;> rfl

/-- The code points of characters are those of Unicode without the surrogates. -/
theorem toNat_ranges (c : Char) : c.toNat < 0xD800 ∨ 0xDFFF < c.toNat ∧ c.toNat < 0x110000 := by
  have h := c.valid
  simp only [UInt32.isValidChar, Nat.isValidChar] at h
  exact h

theorem readUnicodeEscape_single {c : Char} {u : CodeUnit} (h : u.value = c.toNat) (s : Text) :
    readUnicodeEscape .full (u.digits ++ s) = .ok (c, s) := by
  have hc := toNat_ranges c
  have htrailing : isTrailing c.toNat = false := by
    simp only [isTrailing, Bool.and_eq_false_iff, decide_eq_false_iff_not]
    omega
  have hleading : isLeading c.toNat = false := by
    simp only [isLeading, Bool.and_eq_false_iff, decide_eq_false_iff_not]
    omega
  simp [readUnicodeEscape, readHex_digits, h, htrailing, hleading, Char.ofNat_toNat]

theorem readUnicodeEscape_pair {c : Char} {high low : CodeUnit} (hc : 0x10000 ≤ c.toNat)
    (hhigh : high.value = 0xD800 + (c.toNat - 0x10000) / 0x400)
    (hlow : low.value = 0xDC00 + (c.toNat - 0x10000) % 0x400) (s : Text) :
    readUnicodeEscape .full (high.digits ++ (low.text ++ s)) = .ok (c, s) := by
  have hrange := toNat_ranges c
  have htrailing : isTrailing high.value = false := by
    simp only [isTrailing, Bool.and_eq_false_iff, decide_eq_false_iff_not]
    omega
  have hleading : isLeading high.value = true := by
    simp only [isLeading, Bool.and_eq_true, decide_eq_true_eq]
    omega
  have hlast : isTrailing low.value = true := by
    simp only [isTrailing, Bool.and_eq_true, decide_eq_true_eq]
    omega
  have hcode : 0x10000 + (high.value - 0xD800) * 0x400 + (low.value - 0xDC00) = c.toNat := by omega
  have hu : readEscapeOf 'u' (low.text ++ s) = .ok (low.digits ++ s) := rfl
  have hpair : readTrailing high.value (low.text ++ s) = .ok (c, s) := by
    simp [readTrailing, hu, readHex_digits, hlast, hcode, Char.ofNat_toNat]
  simp [readUnicodeEscape, readHex_digits, htrailing, hleading, hpair]

section Care
variable {care : Care}

theorem readChar?_plain {c : Char} (h : 0x20 ≤ c.toNat ∧ c ≠ '"' ∧ c ≠ '\\') (s : Text) :
    readChar? care (c :: s) = .ok (some c, s) := by
  obtain ⟨hcontrol, hquote, hbackslash⟩ := h
  simp [readChar?, hquote, hbackslash, Nat.not_lt.mpr hcontrol]

theorem readChar?_short (e : ShortEscape) (s : Text) :
    readChar? care ('\\' :: e.letter :: s) = .ok (some e.char, s) := by
  have hescape : readEscape care (e.letter :: s) = .ok (e.char, s) := by
    simp only [readEscape, shortEscape?_letter]
  simp only [readChar?, hescape]
  rfl

/-- A backslash and `u` lead to the reading of the digits. -/
theorem readChar?_unit {u : CodeUnit} {s rest : Text} {c : Char}
    (h : readUnicodeEscape care (u.digits ++ s) = .ok (c, rest)) :
    readChar? care (u.text ++ s) = .ok (some c, rest) := by
  have hescape : readEscape care ('u' :: (u.digits ++ s)) = .ok (c, rest) := h
  simp only [CodeUnit.text, List.cons_append, readChar?, hescape]
  rfl

end Care

theorem readChar?_lexeme {l : Lexeme} {c : Char} (h : l.char? = some c) (s : Text) :
    readChar? .full (l.text ++ s) = .ok (some c, s) := by
  cases l with
  | plain d writable =>
      obtain rfl := Option.some.inj h
      exact readChar?_plain writable s
  | short e =>
      obtain rfl := Option.some.inj h
      exact readChar?_short e s
  | units d us encodes =>
      obtain rfl := Option.some.inj h
      rw [utf16] at encodes
      split at encodes
      · obtain ⟨u, rfl, hu⟩ := List.map_eq_singleton_iff.mp encodes
        simp only [Lexeme.text, List.flatMap_cons, List.flatMap_nil, List.append_nil]
        exact readChar?_unit (readUnicodeEscape_single hu s)
      · rename_i hd
        obtain ⟨high, tail, rfl, hhigh, htail⟩ := List.map_eq_cons_iff.mp encodes
        obtain ⟨low, rfl, hlow⟩ := List.map_eq_singleton_iff.mp htail
        simp only [Lexeme.text, List.flatMap_cons, List.flatMap_nil, List.append_nil,
          List.append_assoc]
        exact readChar?_unit (readUnicodeEscape_pair (Nat.not_lt.mp hd) hhigh hlow s)
  | lone u => exact nomatch h

theorem readChars_literal {l : Literal} {t : Text} (h : l.spelled? = some t) (s : Text) :
    readChars .full (l.text ++ '"' :: s) = .ok (t, s) := by
  induction l generalizing t with
  | nil =>
      obtain rfl := Option.some.inj h
      exact readChars_of_close rfl
  | cons first rest ih =>
      simp only [Literal.spelled?, List.mapM_cons, Option.bind_eq_bind,
        Option.bind_eq_some_iff] at h
      obtain ⟨c, hc, cs, hcs, heq⟩ := h
      obtain rfl := Option.some.inj heq
      have hfirst := readChar?_lexeme hc (Literal.text rest ++ '"' :: s)
      simp only [Literal.text, List.flatMap_cons, List.append_assoc] at hfirst ⊢
      exact readChars_of_char hfirst (ih hcs)

theorem readChars_skim_unit {u : CodeUnit} {s rest cs : Text}
    (h : readChars .skim s = .ok (cs, rest)) :
    ∃ cs', readChars .skim (u.text ++ s) = .ok (cs', rest) := by
  have hunit : readUnicodeEscape .skim (u.digits ++ s) = .ok (Char.ofNat u.value, s) := by
    simp [readUnicodeEscape, readHex_digits]
  exact ⟨_, readChars_of_char (readChar?_unit hunit) h⟩

theorem readChars_skim_units {us : List CodeUnit} {s rest cs : Text}
    (h : readChars .skim s = .ok (cs, rest)) :
    ∃ cs', readChars .skim (us.flatMap CodeUnit.text ++ s) = .ok (cs', rest) := by
  induction us with
  | nil => exact ⟨cs, h⟩
  | cons u us ih =>
      obtain ⟨cs', hcs'⟩ := ih
      rw [List.flatMap_cons, List.append_assoc]
      exact readChars_skim_unit hcs'

theorem readChars_skim_lexeme (l : Lexeme) {s rest cs : Text}
    (h : readChars .skim s = .ok (cs, rest)) :
    ∃ cs', readChars .skim (l.text ++ s) = .ok (cs', rest) := by
  cases l with
  | plain c writable => exact ⟨_, readChars_of_char (readChar?_plain writable s) h⟩
  | short e => exact ⟨_, readChars_of_char (readChar?_short e s) h⟩
  | units c us encodes => exact readChars_skim_units h
  | lone u => exact readChars_skim_unit h

theorem readChars_skim_literal (l : Literal) (s : Text) :
    ∃ cs, readChars .skim (l.text ++ '"' :: s) = .ok (cs, s) := by
  induction l with
  | nil => exact ⟨[], readChars_of_close rfl⟩
  | cons first rest ih =>
      obtain ⟨cs, hcs⟩ := ih
      rw [Literal.text, List.flatMap_cons, List.append_assoc]
      exact readChars_skim_lexeme first hcs

/-! ## The written form -/

def CodeUnit.ofControl (n : Nat) (h : n < 0x20) : CodeUnit :=
  ⟨⟨0, false⟩, ⟨0, false⟩, ⟨⟨n / 16, by omega⟩, false⟩, ⟨⟨n % 16, by omega⟩, false⟩⟩

theorem CodeUnit.value_ofControl {n : Nat} (h : n < 0x20) : (ofControl n h).value = n := by
  simp only [ofControl, value]
  omega

theorem CodeUnit.text_ofControl {n : Nat} (h : n < 0x20) :
    (ofControl n h).text = ['\\', 'u', '0', '0', hexDigit (n / 16), hexDigit n] := by
  have hhigh : n / 16 % 16 = n / 16 := by omega
  simp only [ofControl, text, digits, HexDigit.char, hexDigit, hhigh]
  rfl

theorem utf16_of_control {c : Char} (h : c.toNat < 0x20) :
    [CodeUnit.ofControl c.toNat h].map CodeUnit.value = utf16 c := by
  have hsmall : c.toNat < 0x10000 := by omega
  simp [utf16, hsmall, CodeUnit.value_ofControl]

namespace Lexeme

def ofChar (c : Char) : Lexeme :=
  if hquote : c = '"' then .short .quote
  else if hbackslash : c = '\\' then .short .backslash
  else if c = '\x08' then .short .backspace
  else if c = '\x0c' then .short .formFeed
  else if c = '\n' then .short .lineFeed
  else if c = '\r' then .short .carriageReturn
  else if c = '\t' then .short .tab
  else if h : c.toNat < 0x20 then .units c [.ofControl c.toNat h] (utf16_of_control h)
  else .plain c ⟨Nat.not_lt.mp h, hquote, hbackslash⟩

theorem text_ofChar (c : Char) : (ofChar c).text = escaped c := by
  have hcontrol (h : c.toNat < 0x20) :
      text (.units c [.ofControl c.toNat h] (utf16_of_control h)) =
        ['\\', 'u', '0', '0', hexDigit (c.toNat / 16), hexDigit c.toNat] := by
    simp only [text, List.flatMap_cons, List.flatMap_nil, List.append_nil, CodeUnit.text_ofControl]
  unfold ofChar escaped
  repeat' split
  all_goals first | rfl | exact hcontrol _

theorem char?_ofChar (c : Char) : (ofChar c).char? = some c := by
  unfold ofChar
  repeat' split
  all_goals simp_all [char?, ShortEscape.char]

end Lexeme

namespace Literal

def ofText (s : Text) : Literal := s.map Lexeme.ofChar

theorem quotedText_ofText (s : Text) : (ofText s).quotedText = quoted s := by
  simp only [quotedText, text, ofText, quoted, List.flatMap_map, Lexeme.text_ofChar]

@[simp] theorem spelled?_ofText (s : Text) : (ofText s).spelled? = some s := by
  induction s with
  | nil => rfl
  | cons c s ih =>
      simp only [spelled?, ofText] at ih
      simp [spelled?, ofText, Lexeme.char?_ofChar, ih]

end Literal

end ContentVisibility.Json
