/-! # Shortest decimals

A finite positive binary64 number is `m · 2^q`.  The decimals that read back to
it fill an interval around it, ends included when `m` is even.  The shortest of
them is a multiple of the greatest power of ten that has a multiple in the
interval; of two such multiples the nearer one is taken, and of two equally near
ones the even one. -/
set_option autoImplicit false

namespace ContentVisibility

/-- `digits · 10^exponent`. -/
structure Decimal where
  digits : Nat
  exponent : Int
  deriving DecidableEq

/-- `mantissa · 2^exponent`. -/
structure Dyadic where
  mantissa : Nat
  exponent : Int
  deriving DecidableEq

namespace Dyadic

/-- How many fractions there are: the fraction of a binary64 number has 52 bits. -/
def fractionCount : Nat := Nat.pow 2 52

/-- The exponent has 11 bits. -/
def exponentCount : Nat := Nat.pow 2 11

def leastExponent : Int := -1074

/-- The absolute value of the finite number with these bits.  The numbers of the
least exponent have no leading bit of their own. -/
def ofBits (bits : UInt64) : Dyadic :=
  let fraction : Nat := bits.toNat % fractionCount
  let biased : Nat := bits.toNat / fractionCount % exponentCount
  if biased = 0 then ⟨fraction, leastExponent⟩
  else ⟨fractionCount + fraction, leastExponent + biased - 1⟩

def isNegative (bits : UInt64) : Bool := fractionCount * exponentCount ≤ bits.toNat

/-- Four times the distance from the number to the lower end of its interval, in
units of the last place: the gap below a power of two is half as wide. -/
def lowerGap (x : Dyadic) : Nat :=
  if x.mantissa = fractionCount ∧ leastExponent < x.exponent then 1 else 2

/-- The multiple of `10^k` in the interval of `x` that is nearest to `x`. -/
def onGrid? (x : Dyadic) (k : Int) : Option Nat :=
  let up := Nat.pow 2 (x.exponent - 2).toNat * Nat.pow 10 (-k).toNat
  let down := Nat.pow 2 (2 - x.exponent).toNat * Nat.pow 10 k.toNat
  let exact := 4 * x.mantissa * up
  let lower := (4 * x.mantissa - x.lowerGap) * up
  let upper := (4 * x.mantissa + 2) * up
  let inside (c : Nat) : Bool :=
    if x.mantissa % 2 = 0 then lower ≤ c * down && c * down ≤ upper
    else lower < c * down && c * down < upper
  let below := exact / down
  let above := below + 1
  match inside below, inside above with
  | true, true =>
      let fromBelow := exact - below * down
      let fromAbove := above * down - exact
      if fromBelow < fromAbove ∨ fromBelow = fromAbove ∧ below % 2 = 0 then some below
      else some above
  | true, false => some below
  | false, true => some above
  | false, false => none

/-- The first grid, from `10^k` down, with a multiple in the interval. -/
def search (x : Dyadic) : Nat → Int → Decimal
  | 0, k => ⟨0, k⟩
  | steps + 1, k =>
      match x.onGrid? k with
      | some c => ⟨c, k⟩
      | none => search x steps (k - 1)

/-- The grids from `10^309`, beyond every number, to `10^-343`, below every gap. -/
def shortest (x : Dyadic) : Decimal := if x.mantissa = 0 then ⟨0, 0⟩ else x.search 653 309

end Dyadic

end ContentVisibility
