import Runbook.Host.Output
import Runbook.Number.Reading

/-!
Writing arguments the way shells do: with escapes, and with formats that arguments
are put into. This belongs to the programs of the host that stand in `Host.Tools`.
-/

namespace Runbook.Host.Format

def isOctal (c : Char) : Bool := '0' ≤ c && c ≤ '7'

def octalByte (digits : List Char) : UInt8 :=
  (digits.foldl (fun (value : Nat) c => value * 8 + (c.toNat - 48)) 0).toUInt8

/-- What letters stand for behind a backslash. -/
def controls : List (Char × UInt8) :=
  [('a', 7), ('b', 8), ('f', 12), ('n', 10), ('r', 13), ('t', 9), ('v', 11), ('\\', 92)]

/-- Text with its escapes written out. Octal numbers need a zero in front unless
`bare` is set. The second result tells whether the text ends early. -/
def unescape (bare : Bool) : (fuel : Nat) → List Char → List UInt8 × Bool
  | 0, _ => ([], false)
  | _, [] => ([], false)
  | fuel + 1, '\\' :: c :: rest =>
      match controls.lookup c with
      | some byte => prepend [byte] (unescape bare fuel rest)
      | none =>
          if c == 'c' then ([], true)
          else if bare && isOctal c then
            let digits := (c :: rest).takeWhile isOctal |>.take 3
            prepend [octalByte digits] (unescape bare fuel ((c :: rest).drop digits.length))
          else if c == '0' then
            let digits := (rest.takeWhile isOctal).take 3
            prepend [octalByte digits] (unescape bare fuel (rest.drop digits.length))
          else prepend (92 :: bytesOf (String.ofList [c])) (unescape bare fuel rest)
  | fuel + 1, c :: rest => prepend (bytesOf (String.ofList [c])) (unescape bare fuel rest)
where
  /-- Put bytes in front. -/
  prepend (bytes : List UInt8) (rest : List UInt8 × Bool) : List UInt8 × Bool :=
    (bytes ++ rest.1, rest.2)

def unescapeAll (bare : Bool) (text : String) : List UInt8 × Bool :=
  unescape bare (text.length + 1) text.toList

/-- How a value is put into a format. -/
structure Conversion where
  left : Bool
  zero : Bool
  plus : Bool
  width : Nat
  precision : Option Nat
  letter : Char

def readConversion (text : List Char) : Option (Conversion × List Char) :=
  let flags := text.takeWhile fun c => c == '-' || c == '0' || c == '+' || c == ' '
  let rest := text.drop flags.length
  let width := rest.takeWhile Char.isDigit
  let rest := rest.drop width.length
  let (precision, rest) := match rest with
    | '.' :: rest =>
        let digits := rest.takeWhile Char.isDigit
        (some (Number.digitsValue digits), rest.drop digits.length)
    | rest => (none, rest)
  match rest with
  | [] => none
  | letter :: rest =>
      some (⟨flags.contains '-', flags.contains '0', flags.contains '+',
        Number.digitsValue width, precision, letter⟩, rest)

/-- A whole number as shells read it. A quote stands for the code of a character. -/
def integerOf (text : String) : Int :=
  match text.toList with
  | '\'' :: c :: _ => c.toNat
  | '"' :: c :: _ => c.toNat
  | _ => (Number.readInteger? text).getD 0

def pad (conversion : Conversion) (body : List UInt8) : List UInt8 :=
  let missing := conversion.width - body.length
  if conversion.left then body ++ List.replicate missing 32
  else List.replicate missing 32 ++ body

def numeral (conversion : Conversion) (base : Nat) (value : Int) : List UInt8 :=
  let digits := Nat.toDigits base value.natAbs
  let digits := List.replicate ((conversion.precision.getD 1) - digits.length) '0' ++ digits
  let sign := if value < 0 then ['-'] else if conversion.plus then ['+'] else []
  let filled :=
    if conversion.zero && !conversion.left then
      List.replicate (conversion.width - digits.length - sign.length) '0' ++ digits
    else digits
  pad conversion (bytesOf (String.ofList (sign ++ filled)))

def convert (conversion : Conversion) (argument : String) : List UInt8 :=
  match conversion.letter with
  | 'd' | 'i' | 'u' => numeral conversion 10 (integerOf argument)
  | 'o' => numeral conversion 8 (integerOf argument)
  | 'x' => numeral conversion 16 (integerOf argument)
  | 'X' =>
      (numeral conversion 16 (integerOf argument)).map fun byte =>
        if 97 ≤ byte && byte ≤ 122 then byte - 32 else byte
  | 'c' => pad conversion (bytesOf (String.ofList (argument.toList.take 1)))
  | 'b' => pad conversion (unescapeAll false argument).1
  | _ =>
      let bytes := bytesOf argument
      pad conversion (match conversion.precision with
        | some most => bytes.take most
        | none => bytes)

/-- Go through a format once. The results are the bytes, the arguments left, and
whether any argument was asked for. -/
def once : (fuel : Nat) → List Char → List String → List UInt8 × List String × Bool
  | 0, _, arguments => ([], arguments, false)
  | _, [], arguments => ([], arguments, false)
  | fuel + 1, '%' :: '%' :: rest, arguments =>
      let (bytes, left, used) := once fuel rest arguments
      (37 :: bytes, left, used)
  | fuel + 1, '%' :: rest, arguments =>
      match readConversion rest with
      | none => ([37], arguments, false)
      | some (conversion, rest) =>
          let (bytes, left, _) := once fuel rest arguments.tail
          (convert conversion (arguments.headD "") ++ bytes, left, true)
  | fuel + 1, '\\' :: rest, arguments =>
      let digits := (rest.takeWhile isOctal).take 3
      let taken := if digits.isEmpty then 1 else digits.length
      let (bytes, left, used) := once fuel (rest.drop taken) arguments
      ((unescape true 5 ('\\' :: rest.take taken)).1 ++ bytes, left, used)
  | fuel + 1, c :: rest, arguments =>
      let (bytes, left, used) := once fuel rest arguments
      (bytesOf (String.ofList [c]) ++ bytes, left, used)

/-- Go through a format as often as there are arguments for it. -/
def formatAll (format : String) : (fuel : Nat) → List String → List UInt8
  | 0, _ => []
  | fuel + 1, arguments =>
      let (bytes, left, used) := once (format.length + 1) format.toList arguments
      if left.isEmpty || !used then bytes else bytes ++ formatAll format fuel left

end Runbook.Host.Format
