import Runbook.Options.Grammar
import Runbook.Text.Blank

/-!
Describing options on lines of at most 78 characters: a usage line, which is
wrapped between its parts, and a table of the parameters with their
descriptions.
-/

namespace Runbook.Options

def lineWidth : Nat := 78

/-- The column at which descriptions start at the latest. -/
def latestColumn : Nat := 24

def blanks (count : Nat) : String := String.ofList (List.replicate count ' ')

/-- Put words on lines, each line as full as it can be. -/
def fill (width : Nat) (words : List String) : List String :=
  let (lines, current) := words.foldl (fun (lines, current) word =>
    if current.isEmpty then (lines, word)
    else if current.length + 1 + word.length ≤ width then (lines, current ++ " " ++ word)
    else (lines ++ [current], word)) (([] : List String), "")
  if current.isEmpty then lines else lines ++ [current]

def wordsOf (text : String) : List String := (Text.words text.toList).map String.ofList

/-! ## Usage -/

def Parameter.placeholder (parameter : Parameter) : String := parameter.name.toUpper

def Parameter.usage (parameter : Parameter) : List String :=
  let flag := parameter.flags.headD ""
  let words := if parameter.takesValue then [flag, parameter.placeholder] else [flag]
  if parameter.required then words else ["[" ++ " ".intercalate words ++ "]"]

/-- Lines of parts. The first line starts with `start`, the others with an
indentation. -/
def wrapParts (start : String) (indentation : Nat) (parts : List String) : List String :=
  let (lines, current, started) := parts.foldl (fun (lines, current, started) part =>
    if started && lineWidth < current.length + 1 + part.length then
      (lines ++ [current], blanks indentation ++ part, true)
    else if started then (lines, current ++ " " ++ part, true)
    else (lines, current ++ part, true)) (([] : List String), start, false)
  if started then lines ++ [current] else lines

/-- The usage text, one line or several. -/
def Grammar.usage (grammar : Grammar) : String :=
  let start := "usage: "
  let parts := grammar.parameters.flatMap Parameter.usage
  let trailing := if grammar.remainder.isSome then ["..."] else []
  let single := start ++ " ".intercalate (grammar.program :: parts ++ trailing)
  if single.length ≤ lineWidth then single
  else
    let indentation := start.length + grammar.program.length + 1
    let lines := wrapParts start indentation (grammar.program :: parts) ++
      wrapParts (blanks indentation) indentation trailing
    "\n".intercalate lines

/-! ## Help -/

def Parameter.heading (parameter : Parameter) : String :=
  ", ".intercalate (parameter.flags.map fun flag =>
    if parameter.takesValue then flag ++ " " ++ parameter.placeholder else flag)

/-- One row of the table. A heading that is too long has a line of its own. -/
def row (column : Nat) (heading description : String) : List String :=
  let lines := fill (lineWidth - column) (wordsOf description)
  let left := "  " ++ heading
  if left.length + 2 ≤ column then
    match lines with
    | [] => [left]
    | first :: rest =>
        (left ++ blanks (column - left.length) ++ first) :: rest.map (blanks column ++ ·)
  else left :: lines.map (blanks column ++ ·)

/-- A description of a program: its usage, what it is for, its parameters, and a
closing remark. -/
def Grammar.help (grammar : Grammar) (purpose remark : Option String) : String :=
  let positionals := grammar.remainder.toList
  let headings := positionals.map (·.1) ++ grammar.parameters.map Parameter.heading
  let column := min ((headings.map String.length).foldl max 0 + 4) latestColumn
  let titled (title : String) (rows : List (List String)) : List String :=
    if rows.isEmpty then [] else ["\n".intercalate (title :: rows.flatten)]
  let paragraph (text : String) : String := "\n".intercalate (fill lineWidth (wordsOf text))
  let sections := [grammar.usage] ++ (purpose.map paragraph).toList ++
    titled "positional arguments:"
      (positionals.map fun (name, description) => row column name description) ++
    titled "options:"
      (grammar.parameters.map fun parameter =>
        row column parameter.heading parameter.description) ++
    (remark.map paragraph).toList
  "\n\n".intercalate sections

end Runbook.Options
