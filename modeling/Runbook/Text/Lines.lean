/-!
Splitting text into lines. Text read from a file first has its line ends
unified to a single newline; splitting then recognises every vertical separator
of Unicode.
-/

namespace Runbook.Text

/-- The characters that end a line. A carriage return followed by a newline
ends one line only. -/
def isLineBreak (c : Char) : Bool :=
  let code := c.toNat
  (10 ≤ code && code ≤ 13) || (28 ≤ code && code ≤ 30) || code == 0x85 ||
    code == 0x2028 || code == 0x2029

/-- The lines of a text without their line ends. The end of the text ends a
line only if something stands on it. -/
def splitLines (text : List Char) : List (List Char) :=
  let rec collect : List Char → List Char → List (List Char)
    | current, [] => if current.isEmpty then [] else [current.reverse]
    | current, '\r' :: '\n' :: rest => current.reverse :: collect [] rest
    | current, c :: rest =>
        if isLineBreak c then current.reverse :: collect [] rest
        else collect (c :: current) rest
  collect [] text

/-- Turn each carriage return, alone or before a newline, into one newline. -/
def unifyNewlines : List Char → List Char
  | [] => []
  | '\r' :: '\n' :: rest => '\n' :: unifyNewlines rest
  | '\r' :: rest => '\n' :: unifyNewlines rest
  | c :: rest => c :: unifyNewlines rest

end Runbook.Text
