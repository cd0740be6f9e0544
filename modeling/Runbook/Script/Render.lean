import Runbook.Script.Outline

/-!
Writing instructions as text, with each line indented in proportion to its
level.
-/

namespace Runbook.Script

def repeated (text : List Char) (count : Nat) : List Char :=
  (List.replicate count text).flatten

mutual

def Instruction.render (indent : List Char) (level : Nat) : Instruction → List Char
  | .line text => repeated indent level ++ text.toList ++ ['\n']
  | .block body => renderAll indent (level + 1) body

def renderAll (indent : List Char) (level : Nat) : List Instruction → List Char
  | [] => []
  | instruction :: rest => instruction.render indent level ++ renderAll indent level rest

end

namespace Outline

/-- The text of one block, indented as it is in the whole script. -/
def renderBlock (outline : Outline) (indent : String) (index : Nat) : String :=
  String.ofList
    (renderAll indent.toList (outline.level index) (outline.instructionsOf index))

def render (outline : Outline) (indent : String) : String := outline.renderBlock indent 0

end Outline

end Runbook.Script
