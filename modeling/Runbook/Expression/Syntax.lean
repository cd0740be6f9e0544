import Runbook.Number.Double

/-!
The syntax of expressions. The language that can be written is larger than the
language that can be evaluated: every construct outside arithmetic is kept as
what it is not, so that evaluation can refuse it.
-/

namespace Runbook

inductive UnaryOperator
  | plus
  | minus
  | invert
  | not
  deriving DecidableEq, Repr

inductive BinaryOperator
  | add
  | subtract
  | multiply
  | divide
  | floorDivide
  | remainder
  | power
  | matrixMultiply
  | leftShift
  | rightShift
  | bitOr
  | bitXor
  | bitAnd
  deriving DecidableEq, Repr

/-- An expression. `literal` is any literal but a real number, and `construct` is
any form of expression that has no place in arithmetic. -/
inductive Expression
  | integer (value : Nat)
  | decimal (value : Double)
  | literal
  | name (name : String)
  | unary (operator : UnaryOperator) (operand : Expression)
  | binary (operator : BinaryOperator) (left right : Expression)
  | call (callee : Expression) (arguments keywords : List Expression)
  | construct

end Runbook
