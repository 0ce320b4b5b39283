import ContentVisibility.Json.Number
import ContentVisibility.Json.Quoted

/-! # Passing over JSON values

A value of any kind is passed over by reading it and keeping nothing.  Read in
full it may nest only so deep and its numbers must be in range; skimmed it only
has to be well formed.  Every step takes at least one character for each two
units of fuel, so twice the length of the text is fuel enough. -/
set_option autoImplicit false

namespace ContentVisibility.Json

/-- One level down, if there is a limit and it is not yet reached. -/
def descend : Option Nat → Except Error (Option Nat)
  | none => .ok none
  | some 0 => .error .nestingTooDeep
  | some (n + 1) => .ok (some n)

def passNumber (care : Care) (s : Text) : Except Error Text :=
  match care with
  | .skim => Numeral.skip s
  | .full => (readNumber s).map (·.2)

mutual

def passValue (care : Care) : Nat → Option Nat → Text → Except Error Text
  | 0, _, _ => .error .endInValue
  | fuel + 1, levels, s =>
      match skipBlanks s with
      | [] => .error .endInValue
      | c :: rest =>
          if c = 'n' then readWord "ull".toList rest
          else if c = 't' then readWord "rue".toList rest
          else if c = 'f' then readWord "alse".toList rest
          else if c = '"' then (readChars care rest).map (·.2)
          else if c = '-' ∨ Numeral.isDigit c then passNumber care (c :: rest)
          else if c = '[' then do
            let levels ← descend levels
            passElements care fuel true levels rest
          else if c = '\x7b' then do
            let levels ← descend levels
            passMembers care fuel true levels rest
          else .error .expectedValue

def passElements (care : Care) : Nat → Bool → Option Nat → Text → Except Error Text
  | 0, _, _, _ => .error .endInList
  | fuel + 1, first, levels, s => do
      match ← nextElement care first s with
      | .close rest => return rest
      | .item rest =>
          let rest ← passValue care fuel levels rest
          passElements care fuel false levels rest

def passMembers (care : Care) : Nat → Bool → Option Nat → Text → Except Error Text
  | 0, _, _, _ => .error .endInObject
  | fuel + 1, first, levels, s => do
      match ← nextKey care first s with
      | .close rest => return rest
      | .item rest =>
          let (_, rest) ← readChars care rest
          let rest ← readColon rest
          let rest ← passValue care fuel levels rest
          passMembers care fuel false levels rest

end

def skipValue (s : Text) : Except Error Text := passValue .skim (2 * s.length + 2) none s

/-- The lists and objects that may stand in one another. -/
def maxLevels : Nat := 127

/-- Whether the text is one JSON value, read in full. -/
def check (s : Text) : Except Error Unit := do
  finish (← passValue .full (2 * s.length + 2) (some maxLevels) s)

end ContentVisibility.Json
