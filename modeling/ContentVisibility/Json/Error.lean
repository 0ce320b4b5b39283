import ContentVisibility.Decimal.Layout
import ContentVisibility.Text.Quoted

/-! # What can be wrong with a JSON text

Reading goes from left to right and stops at the first fault.  A fault is a
cause; its wording follows from it. -/
set_option autoImplicit false

namespace ContentVisibility.Json

/-- The value found where another kind of value is wanted. -/
inductive Found where
  | null
  | boolean (b : Bool)
  | natural (n : Nat)
  | negative (n : Nat)
  /-- A binary64 number, by its bits. -/
  | floating (bits : UInt64)
  | text (s : Text)
  | list
  | object
  deriving DecidableEq

inductive Error where
  | endInValue
  | endInText
  | endInObject
  | endInList
  | expectedValue
  | expectedWord
  | expectedColon
  | expectedCommaOrBrace
  | expectedCommaOrBracket
  | keyNotText
  | trailingComma
  | trailingCharacters
  | invalidNumber
  | numberOutOfRange
  | invalidEscape
  | unfinishedSurrogatePair
  | loneSurrogate
  | controlCharacter
  | nestingTooDeep
  | duplicateField (name : Text)
  | missingField (name : Text)
  | invalidLength (found : Nat) (wanted : Text)
  | invalidType (found : Found) (wanted : Text)
  deriving DecidableEq

/-- Numbers from a hundred thousandth to below ten to the sixteenth are written
without an exponent. -/
def numberLayout : Decimal.Layout := ⟨-5, 15⟩

def inBackticks (s : Text) : Text := '\x60' :: s ++ ['\x60']

def Found.shown (f : Found) : Text :=
  match f with
  | .null => "null".toList
  | .boolean b => "boolean ".toList ++ inBackticks (if b then "true".toList else "false".toList)
  | .natural n => "integer ".toList ++ inBackticks (Decimal.natText n)
  | .negative n => "integer ".toList ++ inBackticks ('-' :: Decimal.natText n)
  | .floating bits => "floating point ".toList ++ inBackticks (Decimal.ofBits numberLayout bits)
  | .text s => "string ".toList ++ Text.quoted s
  | .list => "sequence".toList
  | .object => "map".toList

def Error.message : Error → Text
  | .endInValue => "EOF while parsing a value".toList
  | .endInText => "EOF while parsing a string".toList
  | .endInObject => "EOF while parsing an object".toList
  | .endInList => "EOF while parsing a list".toList
  | .expectedValue => "expected value".toList
  | .expectedWord => "expected ident".toList
  | .expectedColon => "expected ".toList ++ inBackticks [':']
  | .expectedCommaOrBrace => "expected ".toList ++ inBackticks [','] ++ " or ".toList ++
      inBackticks ['\x7d']
  | .expectedCommaOrBracket => "expected ".toList ++ inBackticks [','] ++ " or ".toList ++
      inBackticks [']']
  | .keyNotText => "key must be a string".toList
  | .trailingComma => "trailing comma".toList
  | .trailingCharacters => "trailing characters".toList
  | .invalidNumber => "invalid number".toList
  | .numberOutOfRange => "number out of range".toList
  | .invalidEscape => "invalid escape".toList
  | .unfinishedSurrogatePair => "unexpected end of hex escape".toList
  | .loneSurrogate => "lone leading surrogate in hex escape".toList
  | .controlCharacter =>
      "control character (\\u0000-\\u001F) found while parsing a string".toList
  | .nestingTooDeep => "recursion limit exceeded".toList
  | .duplicateField name => "duplicate field ".toList ++ inBackticks name
  | .missingField name => "missing field ".toList ++ inBackticks name
  | .invalidLength found wanted =>
      "invalid length ".toList ++ Decimal.natText found ++ ", expected ".toList ++ wanted
  | .invalidType found wanted =>
      "invalid type: ".toList ++ found.shown ++ ", expected ".toList ++ wanted

end ContentVisibility.Json
