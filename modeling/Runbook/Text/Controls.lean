import Runbook.Text.Substitute

/-!
Escapes that stand for control characters.
-/

namespace Runbook.Text

/-- Write the escapes for tabs and line ends as the characters they stand for, one
kind of escape after the other. -/
def expandControls (text : List Char) : List Char :=
  let tabs := substitute ['\\', 't'] ['\t'] text
  let newlines := substitute ['\\', 'n'] ['\n'] tabs
  substitute ['\\', 'r'] ['\r'] newlines

end Runbook.Text
