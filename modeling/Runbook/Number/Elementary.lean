import Runbook.Number.Arithmetic

/-!
Powers, roots and transcendental functions of doubles. The transcendental ones
are those of the machine; what is decided here is how the special values of a
power come out.
-/

namespace Runbook.Double

open Number (powerOfTwo)

def apply (function : Float → Float) (x : Double) : Double := ofFloat (function x.toFloat)

def applyTwo (function : Float → Float → Float) (x y : Double) : Double :=
  ofFloat (function x.toFloat y.toFloat)

/-- The length of the hypotenuse over two legs, rounded once. -/
def hypotenuse : Double → Double → Double
  | .finite _ m e, .finite _ n f =>
      let unit := min e f
      let first := m * powerOfTwo (e - unit).toNat
      let second := n * powerOfTwo (f - unit).toNat
      let square := first * first + second * second
      let shift : Nat := 60
      let scaled := square * powerOfTwo (2 * shift)
      let root := squareRoot scaled
      let rest := if root * root == scaled then 0 else 1
      round false (2 * root + rest) (unit - shift - 1)
  | .infinite _, _ => .infinite false
  | _, .infinite _ => .infinite false
  | _, _ => .notANumber
where
  /-- The whole part of a square root. -/
  squareRoot (n : Nat) : Nat :=
    let start := powerOfTwo ((n.log2 + 2) / 2)
    descend n 1100 start
  /-- Follow the tangent down to the root. -/
  descend (n : Nat) : (fuel : Nat) → Nat → Nat
    | 0, guess => guess
    | fuel + 1, guess =>
        if guess == 0 then 0
        else
          let next := (guess + n / guess) / 2
          if next < guess then descend n fuel next else guess

inductive Power
  | real (value : Double)
  | complex
  | divisionByZero
  | outOfRange

/-- The power of two doubles. A negative base with a fractional exponent has a
complex power. -/
def power (base exponent : Double) : Power :=
  if isZero exponent then .real 1
  else
    match base, exponent with
    | .notANumber, _ => .real .notANumber
    | base, .notANumber => .real (if eq base 1 then 1 else .notANumber)
    | base, .infinite falling =>
        let size := abs base
        .real (if eq size 1 then 1
          else if falling != lt 1 size then .infinite false
          else zero false)
    | .infinite negative, exponent =>
        let flips := negative && isOddInteger exponent
        .real (if isNegative exponent then zero flips else .infinite flips)
    | base, exponent =>
        if isZero base then
          if isNegative exponent then .divisionByZero
          else .real (zero (isNegative base && isOddInteger exponent))
        else if isNegative base && (integer? exponent).isNone then .complex
        else
          let size := abs base
          let flips := isNegative base && isOddInteger exponent
          let value := if eq size 1 then 1 else applyTwo Float.pow size exponent
          if isFinite value then .real (if flips then neg value else value) else .outOfRange

end Runbook.Double
