import Runbook.Number.Double
import Runbook.Text.Blank
import Runbook.Text.DecimalDigit

/-!
Reading numbers that users type. Digits of any script count, one underscore may
stand between two digits, and blanks around the number are ignored.
-/

namespace Runbook.Number

def isAsciiBlank (c : Char) : Bool := c == ' ' || (9 ≤ c.toNat && c.toNat ≤ 13)

/-- A digit of any script as an ASCII digit, and a blank beyond ASCII as a space. -/
def asciiOf (c : Char) : Char :=
  if c.toNat < 128 then c
  else if Text.isBlank c then ' '
  else ((Text.digitValue? c).map Nat.digitChar).getD c

/-- Write a text in ASCII as far as it goes, and cut ASCII blanks off the ends. The
separators from U+001C to U+001F do not count as such here. -/
def normalizeDigits (text : List Char) : List Char :=
  Text.dropEndWhile isAsciiBlank ((text.map asciiOf).dropWhile isAsciiBlank)

/-- Remove the underscores, each of which must stand between two digits. -/
def withoutUnderscores? : (previous : Option Char) → List Char → Option (List Char)
  | previous, [] => if previous == some '_' then none else some []
  | previous, c :: rest =>
      let afterDigit := previous.any (·.isDigit)
      if c == '_' then
        if afterDigit then withoutUnderscores? (some c) rest else none
      else if previous == some '_' && !c.isDigit then none
      else (withoutUnderscores? (some c) rest).map (c :: ·)

def takeSign : List Char → Bool × List Char
  | '-' :: rest => (true, rest)
  | '+' :: rest => (false, rest)
  | rest => (false, rest)

def digitsValue (digits : List Char) : Nat :=
  digits.foldl (fun value c => value * 10 + (c.toNat - 48)) 0

/-- A whole number with an optional sign. More than 4300 digits are refused. -/
def readInteger? (text : String) : Option Int := do
  let (negative, body) := takeSign (normalizeDigits text.toList)
  let digits ← withoutUnderscores? none body
  if digits.isEmpty || !digits.all (·.isDigit) || 4300 < digits.length then none
  else
    let magnitude : Int := digitsValue digits
    return if negative then -magnitude else magnitude

/-- The exponent of a decimal, which may be missing. -/
def readExponent? : List Char → Option Int
  | [] => some 0
  | c :: rest =>
      if c == 'e' || c == 'E' then
        let (negative, digits) := takeSign rest
        if digits.isEmpty || !digits.all (·.isDigit) then none
        else
          let magnitude : Int := digitsValue digits
          some (if negative then -magnitude else magnitude)
      else none

/-- A decimal without a sign: digits with an optional point among or around
them, and an optional exponent. -/
def readDecimal? (negative : Bool) (text : List Char) : Option Double := do
  let front := text.takeWhile Char.isDigit
  let rest := text.dropWhile Char.isDigit
  let (back, rest) := match rest with
    | '.' :: rest => (rest.takeWhile Char.isDigit, rest.dropWhile Char.isDigit)
    | rest => ([], rest)
  if front.isEmpty && back.isEmpty then none
  else
    let exponent ← readExponent? rest
    return Double.ofDecimal negative (digitsValue (front ++ back)) (exponent - back.length)

/-- A double as users type it. -/
def read? (text : String) : Option Double := do
  let body ← withoutUnderscores? none (normalizeDigits text.toList)
  let (negative, body) := takeSign body
  let lower := body.map Char.toLower
  if lower == "inf".toList || lower == "infinity".toList then return .infinite negative
  else if lower == "nan".toList then return .notANumber
  else readDecimal? negative body

end Runbook.Number
