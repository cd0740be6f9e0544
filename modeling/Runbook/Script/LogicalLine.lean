import Runbook.Text.Blank

/-!
Logical lines of a script. Blank lines and comments are dropped, and a line that
ends in a backslash goes on with the next line that is kept. Each logical line
remembers the number of the source line it starts on.
-/

namespace Runbook.Script

/-- A line of a script that is neither blank nor a comment, without its line
end. Lines are numbered from one. -/
structure LogicalLine where
  number : Nat
  text : List Char
  deriving DecidableEq, Repr

def isComment (line : List Char) : Bool := (Text.strip line).head? == some '#'

def isIgnored (line : List Char) : Bool := (Text.strip line).isEmpty || isComment line

def withoutLineEnd (line : List Char) : List Char :=
  Text.dropEndWhile (fun c => c == '\r' || c == '\n') line

/-- The source lines that count, the first of which has the given number. -/
def keptFrom : (number : Nat) → List (List Char) → List LogicalLine
  | _, [] => []
  | number, line :: rest =>
      if isIgnored line then keptFrom (number + 1) rest
      else ⟨number, withoutLineEnd line⟩ :: keptFrom (number + 1) rest

/-- What a line says before the backslash that continues it, if it ends in one.
Blanks behind the backslash do not matter. -/
def continued? (text : List Char) : Option (List Char) :=
  let kept := Text.stripRight text
  if kept.getLast? == some '\\' then some kept.dropLast else none

/-- Join each continued line to the line after it. The last line of all has
nothing to continue with and keeps its backslash. -/
def joinContinued : LogicalLine → List LogicalLine → List LogicalLine
  | current, [] => [current]
  | current, next :: rest =>
      match continued? current.text with
      | some start => joinContinued { current with text := start ++ next.text } rest
      | none => current :: joinContinued next rest

def logicalLines (lines : List (List Char)) : List LogicalLine :=
  match keptFrom 1 lines with
  | [] => []
  | first :: rest => joinContinued first rest

/-! ## Indentation -/

inductive IndentationFault
  | mixed
  | unmatched
  deriving DecidableEq, Repr

structure IndentationError where
  fault : IndentationFault
  line : LogicalLine
  deriving DecidableEq, Repr

def IndentationError.message (error : IndentationError) : String :=
  let text := String.ofList error.line.text
  match error.fault with
  | .mixed => s!"Line {error.line.number} mixes tabs and blanks for indentation: {text}"
  | .unmatched =>
      s!"Line {error.line.number} does not match any enclosing indentation level: {text}"

/-- The leading tabs and blanks of a line. -/
def margin (text : List Char) : List Char :=
  text.takeWhile fun c => c == ' ' || c == '\t'

/-- The width of a line's margin, which must be all tabs or all blanks. -/
def LogicalLine.indentation (line : LogicalLine) : Except IndentationError Nat :=
  let leading := margin line.text
  if leading.contains ' ' && leading.contains '\t' then .error ⟨.mixed, line⟩
  else .ok leading.length

end Runbook.Script
