import ContentVisibility.Decimal.Shortest
import ContentVisibility.Text.Basic

/-! # The text of a number

A layout says for which numbers the digits stand in their places; all others
have one digit before the point and a power of ten. -/
set_option autoImplicit false

namespace ContentVisibility.Decimal

/-- The range of the power of ten of the leading digit in which a number is
written without an exponent. -/
structure Layout where
  least : Int
  greatest : Int
  deriving DecidableEq

def natText (n : Nat) : Text := Nat.toDigits 10 n

/-- The exponent always has a sign. -/
def exponentText (e : Int) : Text := (if e < 0 then '-' else '+') :: natText e.natAbs

/-- A number without an exponent has at least one digit on either side of its
point. -/
def text (layout : Layout) (d : Decimal) : Text :=
  let digits := natText d.digits
  let leading : Int := d.exponent + digits.length - 1
  if d.digits = 0 then "0.0".toList
  else if layout.least ≤ leading ∧ leading ≤ layout.greatest then
    if 0 ≤ d.exponent then digits ++ List.replicate d.exponent.toNat '0' ++ ".0".toList
    else if 0 ≤ leading then
      digits.take (leading + 1).toNat ++ '.' :: digits.drop (leading + 1).toNat
    else "0.".toList ++ List.replicate (-leading - 1).toNat '0' ++ digits
  else
    match digits with
    | [] => []
    | first :: rest =>
        first :: ((if rest.isEmpty then [] else '.' :: rest) ++ 'e' :: exponentText leading)

/-- The shortest text of the binary64 number with these bits. -/
def ofBits (layout : Layout) (bits : UInt64) : Text :=
  (if Dyadic.isNegative bits then ['-'] else []) ++ text layout (Dyadic.ofBits bits).shortest

end ContentVisibility.Decimal
