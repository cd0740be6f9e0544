import Runbook.Number.Double

/-!
The shortest decimal that reads back as a given double. The reals that round to
a double form an interval around it; among the decimals in that interval the
ones with the fewest digits are taken, and of those the one nearest to the
double.
-/

namespace Runbook

open Number (powerOfTwo powerOfTen)

/-- The number `digits * 10 ^ exponent`. -/
structure Decimal where
  digits : Nat
  exponent : Int
  deriving DecidableEq, Repr

/-- Drop the zeros at the end of the digits. -/
def Decimal.normalize (decimal : Decimal) : Decimal :=
  let digits := Nat.toDigits 10 decimal.digits
  let zeros := (digits.reverse.takeWhile (· == '0')).length
  if decimal.digits == 0 then ⟨0, 0⟩
  else ⟨decimal.digits / powerOfTen zeros, decimal.exponent + zeros⟩

/-- A positive double with the interval of reals that round to it. All bounds
are fractions over `denominator`; the ends belong to it if `closed`. -/
structure Rounding where
  value : Nat
  low : Nat
  high : Nat
  denominator : Nat
  closed : Bool

def Rounding.of (mantissa : Nat) (exponent : Int) : Rounding :=
  let scale := powerOfTwo (exponent - 2).toNat
  let below := if mantissa == powerOfTwo 52 && Double.leastExponent < exponent then 1 else 2
  { value := 4 * mantissa * scale
    low := (4 * mantissa - below) * scale
    high := (4 * mantissa + 2) * scale
    denominator := powerOfTwo (2 - exponent).toNat
    closed := mantissa % 2 == 0 }

/-- Whether the fraction `numerator / denominator` rounds to the double. -/
def Rounding.contains (rounding : Rounding) (numerator denominator : Nat) : Bool :=
  let scaled := numerator * rounding.denominator
  if rounding.closed then
    rounding.low * denominator ≤ scaled && scaled ≤ rounding.high * denominator
  else rounding.low * denominator < scaled && scaled < rounding.high * denominator

/-- The place behind the point of the first digit that is not zero, counted so
that a number from one up to ten has magnitude one. -/
def Rounding.magnitude (rounding : Rounding) : Int :=
  ((Nat.toDigits 10 (rounding.value * powerOfTen 400 / rounding.denominator)).length : Int) - 400

/-- The best decimal with its last digit at the place `10 ^ exponent`, if one of
the two neighbours of the double at that place rounds to it. -/
def Rounding.atPlace? (rounding : Rounding) (exponent : Int) : Option Decimal :=
  let up := powerOfTen exponent.toNat
  let down := powerOfTen (-exponent).toNat
  let floor := rounding.value * down / (rounding.denominator * up)
  let fits (digits : Nat) := rounding.contains (digits * up) down
  let twice := 2 * rounding.value * down
  let middle := (2 * floor + 1) * rounding.denominator * up
  let lower := if twice == middle then floor % 2 == 0 else twice < middle
  match fits floor, fits (floor + 1) with
  | true, true => some ⟨if lower then floor else floor + 1, exponent⟩
  | true, false => some ⟨floor, exponent⟩
  | false, true => some ⟨floor + 1, exponent⟩
  | false, false => none

/-- The shortest decimal that rounds to the positive double
`mantissa * 2 ^ exponent`. Seventeen digits always suffice. -/
def Decimal.shortest (mantissa : Nat) (exponent : Int) : Decimal :=
  let rounding := Rounding.of mantissa exponent
  let magnitude := rounding.magnitude
  ((List.range 17).findSome? fun (n : Nat) => rounding.atPlace? (magnitude - n - 1)).getD ⟨0, 0⟩
    |>.normalize

end Runbook
