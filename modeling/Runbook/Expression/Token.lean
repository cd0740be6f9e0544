import Runbook.Number.Reading
import Runbook.Text.Compatibility
import Runbook.Text.Identifier

/-!
The tokens of expressions. Line ends count only outside brackets, a backslash
at the end of a line joins it to the next one, and a comment runs to the end of
its line.
-/

namespace Runbook.Expression

/-- The kinds of string literals that behave differently. -/
inductive StringKind
  | plain
  | bytes
  | formatted
  deriving DecidableEq, Repr

inductive Token
  | integer (value : Nat)
  | decimal (value : Double)
  | imaginary
  | string (kind : StringKind) (raw : Bool) (body : List Char)
  | name (text : List Char)
  | keyword (text : String)
  | symbol (text : String)
  | newline
  deriving DecidableEq, Repr

def keywords : List String :=
  ["False", "None", "True", "and", "as", "assert", "async", "await", "break", "class",
    "continue", "def", "del", "elif", "else", "except", "finally", "for", "from", "global",
    "if", "import", "in", "is", "lambda", "nonlocal", "not", "or", "pass", "raise", "return",
    "try", "while", "with", "yield"]

/-- Symbols in the order in which they are tried; longer ones come first. -/
def symbols : List String :=
  ["**=", "//=", ">>=", "<<=", "...", "**", "//", ">>", "<<", "<=", ">=", "==", "!=", "->",
    "+=", "-=", "*=", "/=", "%=", "&=", "|=", "^=", "@=", ":=", "+", "-", "*", "/", "%", "@",
    "&", "|", "^", "~", "<", ">", "(", ")", "[", "]", "\x7b", "\x7d", ",", ":", ".", ";", "="]

/-! ## Numbers -/

/-- Characters that could go on with an identifier. -/
def continuesName (c : Char) : Bool := c.isAlphanum || c == '_' || 128 ≤ c.toNat

/-- Whether a number may end before `rest`. A keyword that can stand behind a
number may follow at once. -/
def endsNumber (rest : List Char) : Bool :=
  match rest with
  | [] => true
  | c :: _ =>
      !continuesName c ||
        ["and", "else", "for", "if", "in", "is", "or", "not"].any fun word =>
          word.toList.isPrefixOf rest

/-- Digits with single underscores between them, and what follows. -/
def takeDigits (isDigit : Char → Bool) : List Char → List Char × List Char
  | [] => ([], [])
  | '_' :: c :: rest =>
      if isDigit c then
        let (digits, rest) := takeDigits isDigit rest
        (c :: digits, rest)
      else ([], '_' :: c :: rest)
  | c :: rest =>
      if isDigit c then
        let (digits, rest) := takeDigits isDigit rest
        (c :: digits, rest)
      else ([], c :: rest)

def takeDigitRun (isDigit : Char → Bool) (text : List Char) : List Char × List Char :=
  match text with
  | c :: _ => if isDigit c then takeDigits isDigit text else ([], text)
  | [] => ([], [])

def hexValue (c : Char) : Nat :=
  if c.isDigit then c.toNat - 48
  else if 'a' ≤ c then c.toNat - 87
  else c.toNat - 55

def isHexDigit (c : Char) : Bool :=
  c.isDigit || ('a' ≤ c && c ≤ 'f') || ('A' ≤ c && c ≤ 'F')

/-- A whole number in a base that is a power of two, behind its two marks. -/
def takeBased (base : Nat) (isDigit : Char → Bool) (text : List Char) :
    Option (Token × List Char) :=
  let (digits, rest) := takeDigits isDigit text
  if digits.isEmpty || rest.any (fun _ => !endsNumber rest) then none
  else some (.integer (digits.foldl (fun value c => value * base + hexValue c) 0), rest)

/-- The exponent of a decimal with its digits, if there is one. -/
def takeExponent (text : List Char) : Option (Bool × List Char) × List Char :=
  match text with
  | c :: rest =>
      if c == 'e' || c == 'E' then
        let (negative, behind) := Number.takeSign rest
        match takeDigitRun Char.isDigit behind with
        | ([], _) => (none, text)
        | (digits, rest) => (some (negative, digits), rest)
      else (none, text)
  | [] => (none, [])

/-- A decimal number. Without a point and an exponent it is a whole number,
which must not start with a zero unless it is zero. -/
def takeDecimal (text : List Char) : Option (Token × List Char) :=
  let (front, rest) := takeDigitRun Char.isDigit text
  let (back, rest) := match rest with
    | '.' :: rest =>
        let (back, rest) := takeDigitRun Char.isDigit rest
        (some back, rest)
    | rest => (none, rest)
  let (exponent, rest) := takeExponent rest
  let (isImaginary, rest) := match rest with
    | 'j' :: rest => (true, rest)
    | 'J' :: rest => (true, rest)
    | rest => (false, rest)
  if !endsNumber rest then none
  else if isImaginary then some (.imaginary, rest)
  else
    match back, exponent with
    | none, none =>
        if front.head? == some '0' && front.any (· != '0') then none
        else if 4300 < front.length then none
        else some (.integer (Number.digitsValue front), rest)
    | _, _ =>
        let behind := back.getD []
        let places : Int := match exponent with
          | none => 0
          | some (negative, digits) =>
              let magnitude : Int := Number.digitsValue digits
              if negative then -magnitude else magnitude
        some (.decimal (Double.ofDecimal false (Number.digitsValue (front ++ behind))
          (places - behind.length)), rest)

def takeNumber (text : List Char) : Option (Token × List Char) :=
  match text with
  | '0' :: mark :: rest =>
      if mark == 'x' || mark == 'X' then takeBased 16 isHexDigit rest
      else if mark == 'o' || mark == 'O' then takeBased 8 (fun c => '0' ≤ c && c ≤ '7') rest
      else if mark == 'b' || mark == 'B' then takeBased 2 (fun c => c == '0' || c == '1') rest
      else takeDecimal text
  | _ => takeDecimal text

/-! ## Strings -/

/-- Read up to the closing quotes. A backslash keeps the character behind it
from closing the string, and a short string may not run over a line end. -/
def takeBody (closing : List Char) (long : Bool) : List Char → Option (List Char × List Char)
  | [] => none
  | '\\' :: c :: rest => do
      let (body, rest) ← takeBody closing long rest
      return ('\\' :: c :: body, rest)
  | c :: rest =>
      if closing.isPrefixOf (c :: rest) then some ([], rest.drop (closing.length - 1))
      else if c == '\n' && !long then none
      else do
        let (body, rest) ← takeBody closing long rest
        return (c :: body, rest)

/-- Whether letters in front of a quote form one of the string marks, and which. -/
def stringMark? (mark : List Char) : Option (StringKind × Bool) :=
  match mark.map Char.toLower with
  | [] => some (.plain, false)
  | ['u'] => some (.plain, false)
  | ['r'] => some (.plain, true)
  | ['b'] => some (.bytes, false)
  | ['b', 'r'] => some (.bytes, true)
  | ['r', 'b'] => some (.bytes, true)
  | ['f'] => some (.formatted, false)
  | ['f', 'r'] => some (.formatted, true)
  | ['r', 'f'] => some (.formatted, true)
  | _ => none

def takeString (text : List Char) : Option (Token × List Char) := do
  let mark := text.takeWhile fun c => c != '\'' && c != '"'
  let (kind, raw) ← stringMark? mark
  match text.drop mark.length with
  | q :: rest =>
      if [q, q].isPrefixOf rest then
        let (body, rest) ← takeBody [q, q, q] true (rest.drop 2)
        return (.string kind raw body, rest)
      else
        let (body, rest) ← takeBody [q] false rest
        return (.string kind raw body, rest)
  | [] => none

def startsString (text : List Char) : Bool :=
  let mark := text.takeWhile Char.isAlpha
  mark.length ≤ 2 && (stringMark? mark).isSome &&
    match text.drop mark.length with
    | c :: _ => c == '\'' || c == '"'
    | [] => false

/-! ## The text as a whole -/

def unifyLineEnds : List Char → List Char
  | '\r' :: '\n' :: rest => '\n' :: unifyLineEnds rest
  | '\r' :: rest => '\n' :: unifyLineEnds rest
  | c :: rest => c :: unifyLineEnds rest
  | [] => []

def takeToken (text : List Char) : Option (Token × List Char) :=
  match text with
  | [] => none
  | c :: rest =>
      if c.isDigit || (c == '.' && rest.head?.any (·.isDigit)) then takeNumber text
      else if startsString text then takeString text
      else if Text.isIdentifierStart c then
        let name := text.takeWhile Text.isIdentifierRest
        let word := String.ofList name
        some (if keywords.contains word then .keyword word
          else .name (Text.normalizeIdentifier name), text.drop name.length)
      else do
        let symbol ← symbols.find? fun symbol => symbol.toList.isPrefixOf text
        return (.symbol symbol, text.drop symbol.length)

/-- How deep in brackets the text behind a token stands. No more than 200 brackets
may be nested. -/
def depthBehind? (depth : Nat) (token : Token) : Option Nat :=
  if [.symbol "(", .symbol "[", .symbol "\x7b"].contains token then
    if depth < 200 then some (depth + 1) else none
  else if [.symbol ")", .symbol "]", .symbol "\x7d"].contains token then some (depth - 1)
  else some depth

/-- How a line stands before its next token. -/
inductive LineState
  | empty
  | indented
  | begun
  deriving DecidableEq

/-- Split text into tokens. `depth` counts the open brackets. Outside brackets
no line may start with blanks before its first token. -/
def tokensWithin : (fuel depth : Nat) → LineState → List Char → Option (List Token)
  | 0, _, _, _ => none
  | fuel + 1, depth, state, text =>
      match text with
      | [] => some []
      | '\\' :: '\n' :: rest =>
          if rest.isEmpty then none else tokensWithin fuel depth state rest
      | '\n' :: rest =>
          if depth == 0 && state == .begun then
            (tokensWithin fuel depth .empty rest).map (.newline :: ·)
          else if depth == 0 then tokensWithin fuel depth .empty rest
          else tokensWithin fuel depth state rest
      | '#' :: rest => tokensWithin fuel depth state (rest.dropWhile (· != '\n'))
      | c :: rest =>
          if c == ' ' || c == '\t' then
            tokensWithin fuel depth (if state == .empty then .indented else state) rest
          else if c == '\x0c' then
            tokensWithin fuel depth (if state == .indented then .empty else state) rest
          else if state == .indented then none
          else do
            let (token, rest) ← takeToken text
            let depth ← depthBehind? depth token
            let tokens ← tokensWithin fuel depth .begun rest
            return token :: tokens

def tokens? (text : List Char) : Option (List Token) :=
  let unified := unifyLineEnds text
  tokensWithin (unified.length + 1) 0 .empty unified

end Runbook.Expression
