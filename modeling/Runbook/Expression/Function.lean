import Runbook.Expression.Quantity

/-!
The functions that expressions may call. Their values are real: of a complex
value only the real part is kept.
-/

namespace Runbook

inductive Function
  | sin | cos | tan | asin | acos | atan | sqrt | exp | log | log10 | log2
  | floor | ceil | round | abs | min | max | pow
  deriving DecidableEq, Repr

namespace Function

inductive Fault
  | tooFew (function : String) (least most given : Nat)
  | tooMany (function : String) (least most given : Nat)
  | noOutput
  | noPlaces
  | missingArgument
  | nothingToCompare (function : String)
  | notASequence (type : String)
  | unordered (symbol left right : String)
  | notForComplex (function : String)
  deriving DecidableEq, Repr

def names : List (String × Function) :=
  [("sin", .sin), ("cos", .cos), ("tan", .tan), ("asin", .asin), ("acos", .acos),
    ("atan", .atan), ("sqrt", .sqrt), ("exp", .exp), ("log", .log), ("log10", .log10),
    ("log2", .log2), ("floor", .floor), ("ceil", .ceil), ("round", .round), ("abs", .abs),
    ("min", .min), ("max", .max), ("pow", .pow)]

def find? (name : String) : Option Function := names.lookup name

/-- The name under which a call with the wrong number of arguments is reported. -/
def formalName : Function → String
  | .sin => "sin" | .cos => "cos" | .tan => "tan"
  | .asin => "arcsin" | .acos => "arccos" | .atan => "arctan"
  | .sqrt => "sqrt" | .exp => "exp" | .log => "log" | .log10 => "log10" | .log2 => "log2"
  | .floor => "floor" | .ceil => "ceil" | .round => "round" | .abs => "absolute"
  | .min => "min" | .max => "max" | .pow => "power"

def ofReal (function : Function) (x : Double) : Double :=
  match function with
  | .sin => x.apply Float.sin
  | .cos => x.apply Float.cos
  | .tan => x.apply Float.tan
  | .asin => x.apply Float.asin
  | .acos => x.apply Float.acos
  | .atan => x.apply Float.atan
  | .sqrt => x.apply Float.sqrt
  | .exp => x.apply Float.exp
  | .log => x.apply Float.log
  | .log10 => x.apply Float.log10
  | .log2 => x.apply Float.log2
  | .floor => x.floor
  | .ceil => x.ceil
  | .round => x.roundToEven
  | .abs => x.abs
  | _ => x

def ofComplex (function : Function) (re im : Double) : Except Fault Double :=
  let a := re.toFloat
  let b := im.toFloat
  let size := (re.hypotenuse im).toFloat
  let near := 2.0 * a / (Float.sqrt ((a + 1.0) ^ 2.0 + b * b) + Float.sqrt ((a - 1.0) ^ 2.0 + b * b))
  let value (x : Float) : Except Fault Double := .ok (.ofFloat x)
  match function with
  | .sin => value (Float.sin a * Float.cosh b)
  | .cos => value (Float.cos a * Float.cosh b)
  | .tan => value (Float.sin (2.0 * a) / (Float.cos (2.0 * a) + Float.cosh (2.0 * b)))
  | .asin => value (Float.asin near)
  | .acos => value (Float.acos near)
  | .atan => value (0.5 * Float.atan2 (2.0 * a) (1.0 - a * a - b * b))
  | .sqrt => value (Float.sqrt ((size + a) / 2.0))
  | .exp => value (Float.exp a * Float.cos b)
  | .log => value (Float.log size)
  | .log10 => value (Float.log10 size)
  | .log2 => value (Float.log2 size)
  | .round => .ok re.roundToEven
  | .abs => .ok (re.hypotenuse im)
  | function => .error (.notForComplex function.formalName)

/-- The least or greatest of several values. The first of equal ones wins, and a
later one wins only if it compares as smaller or greater. -/
def extreme (symbol : String) (before : Double → Double → Bool) :
    Quantity → List Quantity → Except Fault Double
  | .real best, [] => .ok best
  | .complex re _, [] => .ok re
  | best, next :: rest =>
      match best, next with
      | .real x, .real y => extreme symbol before (.real (if before y x then y else x)) rest
      | x, y => .error (.unordered symbol y.typeName x.typeName)

def call (function : Function) (arguments : List Quantity) : Except Fault Double :=
  match function, arguments with
  | .min, [] => .error (.nothingToCompare "min")
  | .max, [] => .error (.nothingToCompare "max")
  | .min, [x] => .error (.notASequence x.typeName)
  | .max, [x] => .error (.notASequence x.typeName)
  | .min, x :: rest => extreme "<" Double.lt x rest
  | .max, x :: rest => extreme ">" (fun y x => Double.lt x y) x rest
  | .pow, [.real x, .real y] => .ok (Double.applyTwo Float.pow x y)
  | .pow, [x, y] =>
      match Quantity.polarPower x y with
      | .ok value => .ok value.components.1
      | .error _ => .ok .notANumber
  | .pow, [_, _, _] => .error .noOutput
  | .pow, arguments =>
      if arguments.length < 2 then .error (.tooFew "power" 2 3 arguments.length)
      else .error (.tooMany "power" 2 3 arguments.length)
  | .round, [] => .error .missingArgument
  | .round, [_, _] => .error .noPlaces
  | .round, [_, _, _] => .error .noPlaces
  | function, [.real x] => .ok (function.ofReal x)
  | function, [.complex re im] => function.ofComplex re im
  | .round, arguments => .error (.tooMany "round" 1 3 arguments.length)
  | _, [_, _] => .error .noOutput
  | function, [] => .error (.tooFew function.formalName 1 2 0)
  | function, arguments => .error (.tooMany function.formalName 1 2 arguments.length)

end Function

end Runbook
