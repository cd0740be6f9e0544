import Runbook.Expression.Function
import Runbook.Expression.Parser

/-!
The value of an expression. Every part of an expression is evaluated, from left
to right and from the inside out, and the first part that has no value decides
the error.
-/

namespace Runbook.Expression

/-- Why an expression has no value. The first three are errors of the text and of
what it asks for; the others are errors of the arithmetic. -/
inductive Error
  | malformed
  | nullCharacter
  | unsupportedExpression
  | unsupportedLiteral
  | unsupportedOperator
  | unsupportedUnaryOperator
  | unsupportedCallee
  | unsupportedFunction (name : String)
  | unknownName (name : String)
  | integerTooLarge
  | arithmetic (fault : Quantity.Fault)
  | function (fault : Function.Fault)
  deriving DecidableEq, Repr

def constants : List (String × Double) :=
  [("pi", .ofBits 0x400921FB54442D18), ("e", .ofBits 0x4005BF0A8B145769)]

def UnaryOperator.apply (operator : UnaryOperator) (value : Quantity) :
    Except Error Quantity :=
  match operator with
  | .plus => .ok value
  | .minus => .ok value.neg
  | .invert | .not => .error .unsupportedUnaryOperator

def BinaryOperator.apply (operator : BinaryOperator) (left right : Quantity) :
    Except Error Quantity :=
  match operator with
  | .add => .ok (left.add right)
  | .subtract => .ok (left.sub right)
  | .multiply => .ok (left.mul right)
  | .divide => (left.div right).mapError .arithmetic
  | .floorDivide => (left.floorDiv right).mapError .arithmetic
  | .remainder => (left.remainder right).mapError .arithmetic
  | .power => (left.pow right).mapError .arithmetic
  | .matrixMultiply | .leftShift | .rightShift | .bitOr | .bitXor | .bitAnd =>
      .error .unsupportedOperator

def calledFunction : Expression → Except Error Function
  | .name called =>
      match Function.find? called with
      | some function => .ok function
      | none => .error (.unsupportedFunction called)
  | _ => .error .unsupportedCallee

def ofInteger (value : Nat) : Except Error Quantity :=
  match Double.ofNat value with
  | .infinite _ => .error .integerTooLarge
  | value => .ok (.real value)

def value : Expression → Except Error Quantity
  | .integer number => ofInteger number
  | .decimal number => .ok (.real number)
  | .literal => .error .unsupportedLiteral
  | .name constant =>
      match constants.lookup constant with
      | some number => .ok (.real number)
      | none => .error (.unknownName constant)
  | .unary operator operand => do
      let operand ← operand.value
      UnaryOperator.apply operator operand
  | .binary operator left right => do
      let left ← left.value
      let right ← right.value
      BinaryOperator.apply operator left right
  | .call callee arguments _ => do
      let function ← calledFunction callee
      let arguments ← arguments.attach.mapM fun ⟨argument, _⟩ => argument.value
      let result ← (function.call arguments).mapError Error.function
      return .real result
  | .construct => .error .unsupportedExpression

/-- Read and evaluate an expression. Blanks around it are ignored. -/
def evaluate (text : String) : Except Error Quantity :=
  let text := Text.strip text.toList
  if text.contains '\x00' then .error .nullCharacter
  else
    match parse? text with
    | some expression => expression.value
    | none => .error .malformed

/-! ## Messages -/

inductive Error.Kind
  | reading
  | refusal
  | division
  | range
  | type
  deriving DecidableEq, Repr

end Expression

def Quantity.Fault.message : Quantity.Fault → String
  | .division => "float division by zero"
  | .floorDivision => "float floor division by zero"
  | .remainder => "float modulo"
  | .negativePower => "0.0 cannot be raised to a negative power"
  | .complexDivision => "complex division by zero"
  | .complexZeroPower => "0.0 to a negative or complex power"
  | .powerRange => "(34, 'Numerical result out of range')"
  | .complexPowerRange => "complex exponentiation"
  | .noComplexOperation symbol left right =>
      s!"unsupported operand type(s) for {symbol}: '{left}' and '{right}'"

def Quantity.Fault.kind : Quantity.Fault → Expression.Error.Kind
  | .powerRange | .complexPowerRange => .range
  | .noComplexOperation _ _ _ => .type
  | _ => .division

def Function.Fault.message : Function.Fault → String
  | .tooFew function least most given =>
      s!"{function}() takes from {least} to {most} positional arguments but {given} were given"
  | .tooMany function least most given =>
      s!"{function}() takes from {least} to {most} positional arguments but {given} were given"
  | .noOutput => "return arrays must be of ArrayType"
  | .noPlaces => "'float' object cannot be interpreted as an integer"
  | .missingArgument => "round() missing 1 required positional argument: 'a'"
  | .nothingToCompare function => s!"{function} expected at least 1 argument, got 0"
  | .notASequence type => s!"'{type}' object is not iterable"
  | .unordered symbol left right =>
      s!"'{symbol}' not supported between instances of '{left}' and '{right}'"
  | .notForComplex function => s!"ufunc '{function}' not supported for the input types"

namespace Expression.Error

/-- An error as it is reported. A text that is no expression has its problem told by
the parser of the language in words of its own, for which a fixed text stands here. -/
def message : Error → String
  | .malformed => "<syntax error>"
  | .nullCharacter => "source code string cannot contain null bytes"
  | .unsupportedExpression => "Unsupported expression"
  | .unsupportedLiteral => "Unsupported literal"
  | .unsupportedOperator => "Unsupported operator"
  | .unsupportedUnaryOperator => "Unsupported unary operator"
  | .unsupportedCallee => "Unsupported function"
  | .unsupportedFunction called => s!"Unsupported function: {called}"
  | .unknownName constant => s!"Unknown name: {constant}"
  | .integerTooLarge => "int too large to convert to float"
  | .arithmetic fault => fault.message
  | .function fault => fault.message

def kind : Error → Kind
  | .malformed | .nullCharacter => .reading
  | .unsupportedExpression | .unsupportedLiteral | .unsupportedOperator
  | .unsupportedUnaryOperator | .unsupportedCallee | .unsupportedFunction _
  | .unknownName _ => .refusal
  | .integerTooLarge => .range
  | .arithmetic fault => fault.kind
  | .function _ => .type

end Expression.Error

end Runbook
