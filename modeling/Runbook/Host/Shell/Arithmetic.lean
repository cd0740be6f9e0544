import Runbook.Host.Shell.Lexer
import Runbook.Number.Power
import Runbook.Number.Reading
import Runbook.Text.Blank

/-!
The arithmetic of the host's shell on whole numbers.
-/

namespace Runbook.Host.Shell.Arithmetic

open Number (powerOfTwo)

inductive Symbol
  | number (value : Int)
  | name (name : String)
  | operator (text : String)
  deriving DecidableEq, Repr

def operators : List String := ["&&", "||", "==", "!=", "<=", ">=", "<<", ">>", "<", ">", "+",
  "-", "*", "/", "%", "(", ")", "!", "&", "|", "^"]

/-- A whole number to the base that its start tells. -/
def numberOf? (text : List Char) : Option Int :=
  match text with
  | '0' :: 'x' :: digits =>
      some (digits.foldl (fun (value : Int) c => value * 16 +
        (if c.isDigit then c.toNat - 48 else c.toLower.toNat - 87 : Nat)) 0)
  | '0' :: digits => some (digits.foldl (fun (value : Int) c => value * 8 + (c.toNat - 48 : Nat)) 0)
  | digits => if digits.all Char.isDigit then some (Number.digitsValue digits) else none

def symbols : (fuel : Nat) → List Char → Option (List Symbol)
  | 0, _ => some []
  | _, [] => some []
  | fuel + 1, c :: rest => do
      if c.isWhitespace then symbols fuel rest
      else if c.isDigit then
        let digits := (c :: rest).takeWhile Char.isAlphanum
        let value ← numberOf? digits
        return .number value :: (← symbols fuel ((c :: rest).drop digits.length))
      else if isNameStart c then
        let name := (c :: rest).takeWhile isNameCharacter
        return .name (String.ofList name) :: (← symbols fuel ((c :: rest).drop name.length))
      else
        let operator ← operators.find? fun operator => operator.toList.isPrefixOf (c :: rest)
        return .operator operator :: (← symbols fuel ((c :: rest).drop operator.length))

/-- Operators on two numbers by how strongly they bind. -/
def levels : List (List String) := [["||"], ["&&"], ["|"], ["^"], ["&"], ["==", "!="],
  ["<", "<=", ">", ">="], ["<<", ">>"], ["+", "-"], ["*", "/", "%"]]

def truth (condition : Bool) : Int := if condition then 1 else 0

/-- The result of an operator. There is none if zero divides. -/
def apply (operator : String) (left right : Int) : Option Int :=
  match operator with
  | "||" => some (truth (left != 0 || right != 0))
  | "&&" => some (truth (left != 0 && right != 0))
  | "==" => some (truth (left == right))
  | "!=" => some (truth (left != right))
  | "<" => some (truth (left < right))
  | "<=" => some (truth (left ≤ right))
  | ">" => some (truth (right < left))
  | ">=" => some (truth (right ≤ left))
  | "+" => some (left + right)
  | "-" => some (left - right)
  | "*" => some (left * right)
  | "/" => if right == 0 then none else some (left.tdiv right)
  | "%" => if right == 0 then none else some (left.tmod right)
  | "<<" => some (left * powerOfTwo right.toNat)
  | ">>" => some (left.fdiv (powerOfTwo right.toNat))
  | "|" => some (Nat.lor left.toNat right.toNat)
  | "^" => some (Nat.xor left.toNat right.toNat)
  | "&" => some (Nat.land left.toNat right.toNat)
  | _ => none

mutual

/-- The value of an expression whose operators bind at least as strongly as the first
of the given levels. -/
def level (lookup : String → Int) : (fuel : Nat) → List (List String) → List Symbol →
    Option (Int × List Symbol)
  | 0, _, _ => none
  | fuel + 1, [], symbols => unary lookup fuel symbols
  | fuel + 1, operators :: stronger, symbols => do
      let (left, rest) ← level lookup fuel stronger symbols
      levelFrom lookup fuel operators stronger left rest

def levelFrom (lookup : String → Int) : (fuel : Nat) → List String → List (List String) →
    Int → List Symbol → Option (Int × List Symbol)
  | 0, _, _, _, _ => none
  | fuel + 1, operators, stronger, left, symbols =>
      match symbols with
      | .operator operator :: rest =>
          if operators.contains operator then do
            let (right, rest) ← level lookup fuel stronger rest
            levelFrom lookup fuel operators stronger (← apply operator left right) rest
          else some (left, symbols)
      | _ => some (left, symbols)

def unary (lookup : String → Int) : (fuel : Nat) → List Symbol → Option (Int × List Symbol)
  | 0, _ => none
  | fuel + 1, symbols =>
      match symbols with
      | .number value :: rest => some (value, rest)
      | .name name :: rest => some (lookup name, rest)
      | .operator "-" :: rest => do
          let (value, rest) ← unary lookup fuel rest
          return (-value, rest)
      | .operator "+" :: rest => unary lookup fuel rest
      | .operator "!" :: rest => do
          let (value, rest) ← unary lookup fuel rest
          return (truth (value == 0), rest)
      | .operator "(" :: rest => do
          match ← level lookup fuel levels rest with
          | (value, .operator ")" :: rest) => return (value, rest)
          | _ => none
      | _ => none

end

/-- The value of an expression, if it has one. Nothing counts as zero. -/
def evaluate (lookup : String → Int) (expression : List Char) : Option Int := do
  let found ← symbols (expression.length + 1) expression
  if found.isEmpty then return 0
  else
    let (value, rest) ← level lookup (15 * found.length + 30) levels found
    if rest.isEmpty then return value else none

end Runbook.Host.Shell.Arithmetic
