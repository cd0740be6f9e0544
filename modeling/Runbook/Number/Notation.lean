import Runbook.Number.Shortest

/-!
How numbers are written. A double is written with the fewest digits that read
back as the same double, in positional notation from 0.0001 up to 10^16 and
with an exponent beyond. A result that is a whole number is written as that
number without a point.
-/

namespace Runbook.Number

/-- Digits with a decimal point behind the first `point` of them. At least one
digit stands on either side of the point. -/
def positional (digits : List Char) (point : Int) : List Char :=
  match point with
  | .ofNat (before + 1) =>
      let count := before + 1
      let front := digits.take count ++ List.replicate (count - digits.length) '0'
      let back := digits.drop count
      front ++ '.' :: (if back.isEmpty then ['0'] else back)
  | _ => '0' :: '.' :: List.replicate (-point).toNat '0' ++ digits

/-- Digits with the exponent of the first of them, which has two places or more. -/
def scientific (digits : List Char) (exponent : Int) : List Char :=
  let front := match digits with
    | [] => ['0']
    | [c] => [c]
    | c :: rest => c :: '.' :: rest
  let magnitude := Nat.toDigits 10 exponent.natAbs
  let padded := if magnitude.length < 2 then '0' :: magnitude else magnitude
  front ++ 'e' :: (if exponent < 0 then '-' else '+') :: padded

/-- The exponents of the first digit that are written in positional notation. -/
def isPositional (exponent : Int) : Bool := -4 ≤ exponent && exponent < 16

def writeDecimal (decimal : Decimal) : List Char :=
  let digits := Nat.toDigits 10 decimal.digits
  let point := decimal.exponent + digits.length
  if isPositional (point - 1) then positional digits point
  else scientific digits (point - 1)

/-- A double in full. -/
def write : Double → String
  | .notANumber => "nan"
  | .infinite negative => if negative then "-inf" else "inf"
  | .finite negative mantissa exponent =>
      let body :=
        if mantissa == 0 then ['0', '.', '0'] else writeDecimal (.shortest mantissa exponent)
      String.ofList (if negative then '-' :: body else body)

/-- A double as the value of a variable: whole numbers without a point. -/
def writeResult (x : Double) : String :=
  match x.integer? with
  | some n => toString n
  | none => write x

end Runbook.Number
