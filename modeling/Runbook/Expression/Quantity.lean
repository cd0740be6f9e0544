import Runbook.Number.Elementary

/-!
Quantities: the values of expressions. A power of a negative number can be
complex, and arithmetic goes on with complex numbers as long as nothing asks for
a real one.
-/

namespace Runbook

inductive Quantity
  | real (value : Double)
  | complex (re im : Double)

namespace Quantity

inductive Fault
  | division
  | floorDivision
  | remainder
  | negativePower
  | complexDivision
  | complexZeroPower
  | powerRange
  | complexPowerRange
  | noComplexOperation (symbol left right : String)
  deriving DecidableEq, Repr

def typeName : Quantity → String
  | .real _ => "float"
  | .complex _ _ => "complex"

def components : Quantity → Double × Double
  | .real value => (value, 0)
  | .complex re im => (re, im)

def neg : Quantity → Quantity
  | .real value => .real (-value)
  | .complex re im => .complex (-re) (-im)

def add : Quantity → Quantity → Quantity
  | .real x, .real y => .real (x + y)
  | x, y =>
      let (a, b) := x.components
      let (c, d) := y.components
      .complex (a + c) (b + d)

def sub : Quantity → Quantity → Quantity
  | .real x, .real y => .real (x - y)
  | x, y =>
      let (a, b) := x.components
      let (c, d) := y.components
      .complex (a - c) (b - d)

def mul : Quantity → Quantity → Quantity
  | .real x, .real y => .real (x * y)
  | x, y =>
      let (a, b) := x.components
      let (c, d) := y.components
      .complex (a * c - b * d) (a * d + b * c)

/-- Divide complex numbers, after dividing both by the larger component of the
divisor. -/
def complexQuotient (x y : Quantity) : Except Fault Quantity :=
  let (a, b) := x.components
  let (c, d) := y.components
  if c.abs.eq 0 && d.abs.eq 0 then .error .complexDivision
  else if d.abs.le c.abs then
    let ratio := d / c
    let scale := c + d * ratio
    .ok (.complex ((a + b * ratio) / scale) ((b - a * ratio) / scale))
  else if c.abs.le d.abs then
    let ratio := c / d
    let scale := c * ratio + d
    .ok (.complex ((a * ratio + b) / scale) ((b * ratio - a) / scale))
  else .ok (.complex .notANumber .notANumber)

def div : Quantity → Quantity → Except Fault Quantity
  | .real x, .real y => if y.isZero then .error .division else .ok (.real (x / y))
  | x, y => complexQuotient x y

def floorDiv : Quantity → Quantity → Except Fault Quantity
  | .real x, .real y =>
      if y.isZero then .error .floorDivision else .ok (.real (x.floorQuotient y))
  | x, y => .error (.noComplexOperation "//" x.typeName y.typeName)

def remainder : Quantity → Quantity → Except Fault Quantity
  | .real x, .real y =>
      if y.isZero then .error .remainder else .ok (.real (x.floorRemainder y))
  | x, y => .error (.noComplexOperation "%" x.typeName y.typeName)

/-- A natural power by repeated squaring, over at most `fuel` bits. -/
def naturalPower (fuel : Nat) (result square : Quantity) (n : Nat) : Quantity :=
  match fuel with
  | 0 => result
  | fuel + 1 =>
      if n == 0 then result
      else
        let result := if n % 2 == 1 then mul result square else result
        naturalPower fuel result (mul square square) (n / 2)

/-- A complex power by way of length and angle. -/
def polarPower (x y : Quantity) : Except Fault Quantity :=
  let (a, b) := x.components
  let (c, d) := y.components
  if c.isZero && d.isZero then .ok (.complex 1 0)
  else if a.isZero && b.isZero then
    if !d.isZero || c.lt 0 then .error .complexZeroPower else .ok (.complex 0 0)
  else
    let size := a.hypotenuse b
    let angle := Double.applyTwo Float.atan2 b a
    let length := Double.applyTwo Float.pow size c
    let phase := angle * c
    let (length, phase) :=
      if d.isZero then (length, phase)
      else (length * Double.apply Float.exp (-(angle * d)), phase + d * Double.apply Float.log size)
    .ok (.complex (length * Double.apply Float.cos phase) (length * Double.apply Float.sin phase))

def isInfinite : Quantity → Bool
  | .complex (.infinite _) _ => true
  | .complex _ (.infinite _) => true
  | _ => false

def complexPower (x y : Quantity) : Except Fault Quantity := do
  let (c, d) := y.components
  let result ←
    match c.integer? with
    | some n =>
        if d.isZero && n.natAbs ≤ 100 then
          let (a, b) := x.components
          let positive := naturalPower 8 (.complex 1 0) (.complex a b) n.natAbs
          if 0 < n then pure positive
          else (complexQuotient (.complex 1 0) positive).mapError fun _ => .complexZeroPower
        else polarPower x y
    | none => polarPower x y
  if result.isInfinite then throw .complexPowerRange else return result

def pow : Quantity → Quantity → Except Fault Quantity
  | .real x, .real y =>
      match x.power y with
      | .real value => .ok (.real value)
      | .complex => complexPower (.real x) (.real y)
      | .divisionByZero => .error .negativePower
      | .outOfRange => .error .powerRange
  | x, y => complexPower x y

end Quantity

end Runbook
