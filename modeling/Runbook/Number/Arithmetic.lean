import Runbook.Number.Double

/-!
Arithmetic on doubles: the exact result of each operation, rounded once. Also
the division that rounds down with the remainder that belongs to it, and the
rounding of doubles to whole numbers.
-/

namespace Runbook.Double

open Number (powerOfTwo)

def neg : Double → Double
  | .finite negative mantissa exponent => .finite (!negative) mantissa exponent
  | .infinite negative => .infinite (!negative)
  | .notANumber => .notANumber

def abs : Double → Double
  | .finite _ mantissa exponent => .finite false mantissa exponent
  | .infinite _ => .infinite false
  | .notANumber => .notANumber

/-- A mantissa with its sign in units of `2 ^ unit`, which is no more than `exponent`. -/
def signedUnits (negative : Bool) (mantissa : Nat) (exponent unit : Int) : Int :=
  let units : Int := mantissa * powerOfTwo (exponent - unit).toNat
  if negative then -units else units

/-- The double nearest to `units * 2 ^ exponent`, with the given sign for zero. -/
def ofUnits (units exponent : Int) (zeroNegative : Bool) : Double :=
  if units == 0 then zero zeroNegative else round (units < 0) units.natAbs exponent

def add : Double → Double → Double
  | .finite s m e, .finite t n f =>
      let unit := min e f
      ofUnits (signedUnits s m e unit + signedUnits t n f unit) unit (s && t)
  | .infinite s, .infinite t => if s == t then .infinite s else .notANumber
  | .notANumber, _ => .notANumber
  | _, .notANumber => .notANumber
  | .infinite s, _ => .infinite s
  | _, .infinite t => .infinite t

def sub (x y : Double) : Double := add x (neg y)

def mul : Double → Double → Double
  | .finite s m e, .finite t n f => round (s != t) (m * n) (e + f)
  | .notANumber, _ => .notANumber
  | _, .notANumber => .notANumber
  | x, y =>
      if isZero x || isZero y then .notANumber else .infinite (isNegative x != isNegative y)

def div : Double → Double → Double
  | .finite s m e, .finite t n f =>
      if n == 0 then (if m == 0 then .notANumber else .infinite (s != t))
      else if m == 0 then zero (s != t)
      else ofRatio (s != t) (m * powerOfTwo (e - f).toNat) (n * powerOfTwo (f - e).toNat)
  | .finite s _ _, .infinite t => zero (s != t)
  | .infinite s, .finite t _ _ => .infinite (s != t)
  | _, _ => .notANumber

instance : Neg Double := ⟨neg⟩
instance : Add Double := ⟨add⟩
instance : Sub Double := ⟨sub⟩
instance : Mul Double := ⟨mul⟩
instance : Div Double := ⟨div⟩

/-! ## Order -/

def lt : Double → Double → Bool
  | .finite s m e, .finite t n f =>
      let unit := min e f
      signedUnits s m e unit < signedUnits t n f unit
  | .notANumber, _ => false
  | _, .notANumber => false
  | .infinite s, .infinite t => s && !t
  | .infinite s, _ => s
  | _, .infinite t => !t

/-- Equality of values. The two zeros are equal, and what is not a number equals
nothing. -/
def eq : Double → Double → Bool
  | .finite s m e, .finite t n f =>
      let unit := min e f
      signedUnits s m e unit == signedUnits t n f unit
  | .infinite s, .infinite t => s == t
  | _, _ => false

def le (x y : Double) : Bool := lt x y || eq x y

/-! ## Whole numbers -/

def floor : Double → Double
  | .finite negative mantissa exponent =>
      let places := (-exponent).toNat
      if places == 0 || mantissa == 0 then .finite negative mantissa exponent
      else
        let quotient := mantissa / powerOfTwo places
        if mantissa % powerOfTwo places == 0 then round negative quotient 0
        else if negative then round true (quotient + 1) 0
        else round false quotient 0
  | x => x

def ceil (x : Double) : Double := neg (floor (neg x))

/-- Round to the nearest whole number, an exact tie to the even one. -/
def roundToEven : Double → Double
  | .finite negative mantissa exponent =>
      let places := (-exponent).toNat
      if places == 0 then .finite negative mantissa exponent
      else round negative (roundShift mantissa places) 0
  | x => x

/-! ## Division with remainder -/

/-- The exact remainder of the division that rounds towards zero. It has the
sign of the dividend. -/
def truncatedRemainder : Double → Double → Double
  | .finite s m e, .finite _ n f =>
      if n == 0 then .notANumber
      else
        let unit := min e f
        round s ((m * powerOfTwo (e - unit).toNat) % (n * powerOfTwo (f - unit).toNat)) unit
  | .finite s m e, .infinite _ => .finite s m e
  | _, _ => .notANumber

/-- The remainder of the division that rounds down. It has the sign of the
divisor, also when it is zero. -/
def floorRemainder (x y : Double) : Double :=
  let remainder := truncatedRemainder x y
  if isZero remainder then zero (isNegative y)
  else if lt y 0 != lt remainder 0 then remainder + y
  else remainder

/-- The whole quotient of the division that rounds down. -/
def floorQuotient (x y : Double) : Double :=
  let remainder := truncatedRemainder x y
  let quotient := (x - remainder) / y
  let quotient :=
    if !isZero remainder && lt y 0 != lt remainder 0 then quotient - 1 else quotient
  if isZero quotient then zero (isNegative (x / y))
  else
    let rounded := floor quotient
    if lt (ofRatio false 1 2) (quotient - rounded) then rounded + 1 else rounded

end Runbook.Double
