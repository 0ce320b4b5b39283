import ContentVisibility.Json.Reader

/-! # JSON numbers

A numeral is an optional minus sign, digits without a superfluous zero in front,
and optionally a fraction and a power of ten.  Integers that fit 64 bits stay
integers, except for a negative zero; all others become binary64 numbers: the
leading digits that fit 64 bits, multiplied or divided by a power of ten. -/
set_option autoImplicit false

namespace ContentVisibility.Json

/-! ## Numerals -/

structure Numeral where
  isNegative : Bool
  whole : Text
  fraction : Text := []
  /-- The sign and the digits of the power of ten. -/
  power : Option (Bool × Text) := none
  deriving DecidableEq

namespace Numeral

def isDigit (c : Char) : Bool := '0' ≤ c && c ≤ '9'

def digits (s : Text) : Text := s.takeWhile isDigit

def afterDigits (s : Text) : Text := s.dropWhile isDigit

/-- A run of digits, at least one. -/
def readDigits (s : Text) : Except Error (Text × Text) :=
  match s with
  | [] => .error .endInValue
  | c :: _ => if isDigit c then .ok (digits s, afterDigits s) else .error .invalidNumber

def readWhole (s : Text) : Except Error (Text × Text) := do
  let (whole, rest) ← readDigits s
  if whole.head? = some '0' ∧ 1 < whole.length then .error .invalidNumber
  else .ok (whole, rest)

def readFraction (s : Text) : Except Error (Text × Text) :=
  match s with
  | '.' :: rest => readDigits rest
  | _ => .ok ([], s)

def readPower (s : Text) : Except Error (Option (Bool × Text) × Text) :=
  match s with
  | [] => .ok (none, [])
  | c :: rest =>
      if c = 'e' ∨ c = 'E' then do
        let (isNegative, rest) := match rest with
          | '+' :: after => (false, after)
          | '-' :: after => (true, after)
          | _ => (false, rest)
        let (power, after) ← readDigits rest
        return (some (isNegative, power), after)
      else .ok (none, c :: rest)

def read (s : Text) : Except Error (Numeral × Text) := do
  let (isNegative, s) := match s with
    | '-' :: rest => (true, rest)
    | _ => (false, s)
  let (whole, s) ← readWhole s
  let (fraction, s) ← readFraction s
  let (power, s) ← readPower s
  return ({ isNegative, whole, fraction, power }, s)

/-- A number that is passed over only has to be well formed. -/
def skip (s : Text) : Except Error Text :=
  match read s with
  | .ok (_, rest) => .ok rest
  | .error _ => .error .invalidNumber

end Numeral

/-! ## Values -/

inductive Number where
  | natural (n : Nat)
  | negative (n : Nat)
  /-- A binary64 number, by its bits. -/
  | floating (bits : UInt64)
  deriving DecidableEq

def Number.found : Number → Found
  | .natural n => .natural n
  | .negative n => .negative n
  | .floating bits => .floating bits

namespace Numeral

def digitValue (c : Char) : Nat := c.toNat - '0'.toNat

/-- The greatest integer of 64 bits. -/
def maxWord : Nat := 18446744073709551615

/-- The size of the least signed integer of 64 bits. -/
def maxNegative : Nat := 9223372036854775808

/-- The number that the leading digits make, read on from `n` for as long as it
fits 64 bits, and how many digits are left. -/
def accumulate : Nat → Text → Nat × Nat
  | n, [] => (n, 0)
  | n, c :: rest =>
      let next := 10 * n + digitValue c
      if next ≤ maxWord then accumulate next rest else (n, rest.length + 1)

def natValue (ds : Text) : Nat := ds.foldl (fun n c => 10 * n + digitValue c) 0

def powerOfTen (n : Nat) : Float := Float.ofScientific 1 false n

def maxTableExponent : Nat := 308

/-- `x / 10^n`, in steps of at most `10^308`. -/
def divideByPower (x : Float) (n : Nat) : Float :=
  if n ≤ maxTableExponent then x / powerOfTen n
  else if x == 0 then x
  else divideByPower (x / powerOfTen maxTableExponent) (n - maxTableExponent)
termination_by n
decreasing_by simp [maxTableExponent] at *; omega

def scale (significand : Nat) (exponent : Int) : Except Error Float :=
  let x := significand.toUInt64.toFloat
  let n := exponent.natAbs
  if exponent < 0 then .ok (divideByPower x n)
  else if n ≤ maxTableExponent then
    let product := x * powerOfTen n
    if product.isInf then .error .numberOutOfRange else .ok product
  else if significand = 0 then .ok x
  else .error .numberOutOfRange

/-- The greatest power of ten that is computed with. -/
def maxPower : Nat := 2147483647

def floatValue (n : Numeral) : Except Error Float :=
  let (front, left) := accumulate 0 n.whole
  let (significand, unread) := accumulate front n.fraction
  let shift : Int := left - ((n.fraction.length - unread : Nat) : Int)
  match n.power with
  | none => scale significand shift
  | some (isNegative, ds) =>
      let power := natValue ds
      if maxPower < power then
        if significand ≠ 0 ∧ !isNegative then .error .numberOutOfRange else .ok 0
      else scale significand (if isNegative then shift - power else shift + power)

/-- The integer that the numeral writes, if it writes one and it fits 64 bits. -/
def integer? (n : Numeral) : Option Number :=
  if n.fraction.isEmpty ∧ n.power.isNone then
    let value := natValue n.whole
    if n.isNegative then
      if 0 < value ∧ value ≤ maxNegative then some (.negative value) else none
    else if value ≤ maxWord then some (.natural value) else none
  else none

def value (n : Numeral) : Except Error Number :=
  match n.integer? with
  | some number => .ok number
  | none => do
      let x ← n.floatValue
      return .floating (if n.isNegative then -x else x).toBits

end Numeral

def readNumber (s : Text) : Except Error (Number × Text) := do
  let (numeral, rest) ← Numeral.read s
  return (← numeral.value, rest)

end ContentVisibility.Json
