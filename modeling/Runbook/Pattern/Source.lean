import Runbook.Number.Reading
import Runbook.Pattern.Error
import Runbook.Pattern.Syntax
import Runbook.Text.Identifier

/-!
The text of a pattern as it is read. A backslash and the character behind it are
read as one, and a backslash at the very end is an error as soon as the text
before it has been read.
-/

namespace Runbook.Pattern

/-- One step in the text of a pattern. -/
inductive Piece
  | plain (c : Char)
  | escape (c : Char)
  deriving DecidableEq, Repr

namespace Piece

def length : Piece → Nat
  | .plain _ => 1
  | .escape _ => 2

def toList : Piece → List Char
  | .plain c => [c]
  | .escape c => ['\\', c]

def text (piece : Piece) : String := String.ofList piece.toList

end Piece

/-- The text that has not been read, starting with the next piece at `position`. -/
structure Source where
  text : List Char
  position : Nat
  next : Option Piece
  rest : List Char

/-- The code points of the characters that can be asked for by name. -/
abbrev CharacterNames := String → Option Nat

/-- What is known of characters, and what has been found out about the pattern so
far. `widths` holds the groups from the first one on, those still open without a
width; `awaited` holds numbers of groups that were asked for and where; the last
three fields tell which flags were set for the whole pattern. -/
structure Reading where
  characters : CharacterNames
  source : Source
  names : List (String × Nat)
  widths : List (Option (Nat × Nat))
  lookBehindFrom : Option Nat
  awaited : List (Nat × Nat)
  ascii : Bool
  unicode : Bool
  template : Bool

abbrev Reader := StateT Reading (Except Error)

def Source.load (text : List Char) (position : Nat) : List Char → Except Error Source
  | [] => .ok ⟨text, position, none, []⟩
  | ['\\'] => .error ⟨.endsInEscape, some position, text⟩
  | '\\' :: c :: rest => .ok ⟨text, position, some (.escape c), rest⟩
  | c :: rest => .ok ⟨text, position, some (.plain c), rest⟩

def Source.ofText (text : List Char) : Except Error Source :=
  Source.load text 0 text

namespace Reader

def next : Reader (Option Piece) := do return (← get).source.next

def position : Reader Nat := do return (← get).source.position

/-- Fail at a place that lies `back` characters before the next piece. -/
def fail {α : Type} (fault : Fault) (back : Nat) : Reader α := do
  let source := (← get).source
  throw ⟨fault, some (source.position - back), source.text⟩

/-- Fail at an absolute place. -/
def failAt {α : Type} (fault : Fault) (position : Nat) : Reader α := do
  throw ⟨fault, some position, (← get).source.text⟩

/-- Fail without naming a place. -/
def failAnywhere {α : Type} (fault : Fault) : Reader α := do
  throw ⟨fault, none, (← get).source.text⟩

def take : Reader (Option Piece) := do
  let state ← get
  match state.source.next with
  | none => return none
  | some piece =>
      let source ← Source.load state.source.text (state.source.position + piece.length)
        state.source.rest
      set { state with source := source }
      return some piece

def sees (c : Char) : Reader Bool := do return (← next) == some (.plain c)

def take? (c : Char) : Reader Bool := do
  if ← sees c then
    let _ ← take
    return true
  else return false

def takeWhile (keep : Char → Bool) : (count : Nat) → Reader (List Char)
  | 0 => return []
  | count + 1 => do
      match ← next with
      | some (.plain c) =>
          if keep c then
            let _ ← take
            return c :: (← takeWhile keep count)
          else return []
      | _ => return []

/-- Take a name up to its terminator, which is taken too. -/
def takeName (terminator : Char) (what : String) : Reader (List Char) := do
  go terminator what ((← get).source.rest.length + 2) []
where
  go (terminator : Char) (what : String) : (fuel : Nat) → List Char → Reader (List Char)
    | 0, name => return name
    | fuel + 1, name => do
        match ← take with
        | none =>
            if name.isEmpty then fail (.missingName what) 0
            else fail (.openName terminator) name.length
        | some piece =>
            if piece == .plain terminator then
              if name.isEmpty then fail (.missingName what) 1 else return name
            else go terminator what fuel (name ++ piece.toList)

end Reader

/-! ## Escapes -/

def isOctal (c : Char) : Bool := '0' ≤ c && c ≤ '7'

def isHexadecimal (c : Char) : Bool :=
  c.isDigit || ('a' ≤ c && c ≤ 'f') || ('A' ≤ c && c ≤ 'F')

def hexadecimalDigit (c : Char) : Nat :=
  if c.isDigit then c.toNat - 48 else c.toLower.toNat - 87

def hexadecimalValue (digits : List Char) : Nat :=
  digits.foldl (fun value c => value * 16 + hexadecimalDigit c) 0

def octalValue (digits : List Char) : Nat :=
  digits.foldl (fun value c => value * 8 + (c.toNat - 48)) 0

def controlCode? (c : Char) : Option Nat :=
  [('a', 7), ('b', 8), ('f', 12), ('n', 10), ('r', 13), ('t', 9), ('v', 11), ('\\', 92)].lookup c

def category? (c : Char) : Option Member :=
  [('d', .category .digit false), ('D', .category .digit true),
    ('s', .category .space false), ('S', .category .space true),
    ('w', .category .word false), ('W', .category .word true)].lookup c

open Reader

/-- The code point of an escape with exactly `count` hexadecimal digits. A number
that is out of all proportion is not an error of the pattern. -/
def readHexadecimal (letter : Char) (count : Nat) : Reader Nat := do
  let digits ← takeWhile isHexadecimal count
  let shown := String.ofList ('\\' :: letter :: digits)
  if digits.length != count then fail (.incompleteEscape shown) shown.length
  else
    let code := hexadecimalValue digits
    if 0x80000000 ≤ code then failAnywhere .codeTooLarge
    else if 0x10FFFF < code then fail (.badEscape shown) shown.length
    else return code

/-- The code point of an escape that names a character. -/
def readCharacterName : Reader Nat := do
  if ← take? '\x7b' then
    let name ← takeName '\x7d' "character name"
    match (← get).characters (String.ofList name) with
    | some code => return code
    | none => fail (.undefinedCharacter (String.ofList name)) (name.length + 4)
  else fail .missingBrace 0

/-- An octal escape that starts with the given digits. -/
def octalCode (digits : List Char) : Reader Nat := do
  let code := octalValue digits
  if 0o377 < code then
    let shown := String.ofList ('\\' :: digits)
    fail (.octalTooLarge shown) shown.length
  else return code

/-- The code point of an escape that is written in the same way everywhere. -/
def readCode (c : Char) : Reader Nat := do
  if c == 'x' then readHexadecimal c 2
  else if c == 'u' then readHexadecimal c 4
  else if c == 'U' then readHexadecimal c 8
  else if c == 'N' then readCharacterName
  else if c.isAlphanum then fail (.badEscape (String.ofList ['\\', c])) 2
  else return c.toNat

/-- An escape inside a set of characters. -/
def readSetEscape (c : Char) : Reader Member := do
  match controlCode? c, category? c with
  | some code, _ => return .range code code
  | none, some member => return member
  | none, none =>
      let code ← (do
        if isOctal c then octalCode (c :: (← takeWhile isOctal 2)) else readCode c)
      return .range code code

end Runbook.Pattern
