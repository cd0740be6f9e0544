import Runbook.Number.Power

/-!
Binary floating-point numbers of 64 bits. A finite double is a whole number of
at most 53 bits times a power of two. Every operation works out its exact result
on whole numbers and then rounds it once to the nearest double, an exact tie
going to the even mantissa.
-/

namespace Runbook

/-- A double. A finite one has the magnitude `mantissa * 2 ^ exponent`, where the
mantissa has 53 bits unless the exponent is the least one. -/
inductive Double
  | finite (negative : Bool) (mantissa : Nat) (exponent : Int)
  | infinite (negative : Bool)
  | notANumber
  deriving DecidableEq, Repr

namespace Double

open Number (powerOfTwo powerOfTen)

def leastExponent : Int := -1074

def greatestExponent : Int := 971

def zero (negative : Bool) : Double := .finite negative 0 leastExponent

/-- Put a rounded mantissa, which may have grown by one bit, into range. -/
def pack (negative : Bool) (mantissa : Nat) (exponent : Int) : Double :=
  let (mantissa, exponent) :=
    if mantissa == powerOfTwo 53 then (powerOfTwo 52, exponent + 1) else (mantissa, exponent)
  if mantissa == 0 then zero negative
  else if greatestExponent < exponent then .infinite negative
  else .finite negative mantissa exponent

/-- Divide by a power of two and round to the nearest whole number, an exact tie
to the even one. -/
def roundShift (mantissa places : Nat) : Nat :=
  let unit := powerOfTwo places
  let quotient := mantissa / unit
  let twice := 2 * (mantissa % unit)
  if twice < unit then quotient
  else if unit < twice then quotient + 1
  else quotient + quotient % 2

/-- The double nearest to `mantissa * 2 ^ exponent`. -/
def round (negative : Bool) (mantissa : Nat) (exponent : Int) : Double :=
  if mantissa == 0 then zero negative
  else
    let target := max (exponent + mantissa.log2 - 52) leastExponent
    if target ≤ exponent then
      pack negative (mantissa * powerOfTwo (exponent - target).toNat) target
    else pack negative (roundShift mantissa (target - exponent).toNat) target

/-- The double nearest to a fraction. The quotient is worked out to more bits
than a mantissa has, with a last bit that tells whether anything remains. -/
def ofRatio (negative : Bool) (numerator denominator : Nat) : Double :=
  let shift : Int := (denominator.log2 : Int) - numerator.log2 + 56
  let above := numerator * powerOfTwo shift.toNat
  let below := denominator * powerOfTwo (-shift).toNat
  let rest := if above % below == 0 then 0 else 1
  round negative (2 * (above / below) + rest) (-shift - 1)

def ofNat (n : Nat) : Double := round false n 0

def ofInt (n : Int) : Double := round (n < 0) n.natAbs 0

/-- The double nearest to `mantissa * 10 ^ exponent`. Exponents far beyond the
range of doubles are not worked out. -/
def ofDecimal (negative : Bool) (mantissa : Nat) (exponent : Int) : Double :=
  if mantissa == 0 then zero negative
  else
    let size : Int := (Nat.toDigits 10 mantissa).length
    if 310 < size + exponent then .infinite negative
    else if size + exponent < -330 then zero negative
    else ofRatio negative (mantissa * powerOfTen exponent.toNat) (powerOfTen (-exponent).toNat)

instance (n : Nat) : OfNat Double n := ⟨ofNat n⟩

/-! ## Kinds -/

def isNegative : Double → Bool
  | .finite negative _ _ => negative
  | .infinite negative => negative
  | .notANumber => false

def isFinite : Double → Bool
  | .finite _ _ _ => true
  | _ => false

def isZero : Double → Bool
  | .finite _ mantissa _ => mantissa == 0
  | _ => false

def whole? (mantissa : Nat) : Int → Option Nat
  | .ofNat exponent => some (mantissa * powerOfTwo exponent)
  | .negSucc places =>
      if mantissa % powerOfTwo (places + 1) == 0 then some (mantissa / powerOfTwo (places + 1)) else none

def integer? : Double → Option Int
  | .finite negative mantissa exponent =>
      (whole? mantissa exponent).map fun magnitude =>
        if negative then -(magnitude : Int) else magnitude
  | _ => none

def isOddInteger (x : Double) : Bool := (integer? x).any (· % 2 != 0)

/-! ## Machine words -/

def ofBits (bits : Nat) : Double :=
  let negative := bits / powerOfTwo 63 % 2 == 1
  let biased : Nat := bits / powerOfTwo 52 % powerOfTwo 11
  let fraction := bits % powerOfTwo 52
  if biased == 2047 then
    if fraction == 0 then .infinite negative else .notANumber
  else if biased == 0 then .finite negative fraction leastExponent
  else .finite negative (fraction + powerOfTwo 52) ((biased : Int) + leastExponent - 1)

def toBits : Double → Nat
  | .notANumber => 0x7FF8000000000000
  | .infinite negative => (if negative then powerOfTwo 63 else 0) + 0x7FF0000000000000
  | .finite negative mantissa exponent =>
      (if negative then powerOfTwo 63 else 0) +
        if mantissa < powerOfTwo 52 then mantissa
        else (exponent - leastExponent + 1).toNat * powerOfTwo 52 + (mantissa - powerOfTwo 52)

def ofFloat (x : Float) : Double := ofBits x.toBits.toNat

def toFloat (x : Double) : Float := Float.ofBits x.toBits.toUInt64

end Double

end Runbook
