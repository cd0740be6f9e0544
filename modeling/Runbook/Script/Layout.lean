import Runbook.Script.LogicalLine
import Runbook.Script.Outline
import Runbook.Text.Lines

/-!
Reading the layout of a script. Lines are placed one after the other; a deeper
line opens a block, and a shallower line closes every block that is deeper than
it and must then stand at the depth of the block it has come back to.
-/

namespace Runbook.Script

structure OpenBlock where
  index : Nat
  indentation : Nat
  deriving DecidableEq, Repr

/-- The layout of the lines placed so far. The root is always open and is not
listed among the nested blocks, the innermost of which comes first. -/
structure Layout where
  blocks : List Block
  nested : List OpenBlock
  deriving DecidableEq, Repr

namespace Layout

def empty : Layout where
  blocks := [⟨none, 0, []⟩]
  nested := []

def innermost (nested : List OpenBlock) : OpenBlock := nested.headD ⟨0, 0⟩

def append (blocks : List Block) (index : Nat) (entry : Entry) : List Block :=
  blocks.modify index fun block => { block with entries := block.entries ++ [entry] }

def place (layout : Layout) (line : LogicalLine) : Except IndentationError Layout := do
  let width ← line.indentation
  let entry := Entry.line (String.ofList (Text.strip line.text))
  let current := innermost layout.nested
  if width < current.indentation then
    let nested := layout.nested.dropWhile fun block => width < block.indentation
    let target := innermost nested
    if width = target.indentation then
      return { blocks := append layout.blocks target.index entry, nested := nested }
    else throw ⟨.unmatched, line⟩
  else if current.indentation < width then
    let index := layout.blocks.length
    let parent := append layout.blocks current.index (.block index)
    return {
      blocks := parent ++ [⟨some current.index, width, [entry]⟩]
      nested := ⟨index, width⟩ :: layout.nested }
  else
    return { layout with blocks := append layout.blocks current.index entry }

def outline (layout : Layout) : Outline := ⟨layout.blocks⟩

end Layout

def ofLines (lines : List (List Char)) : Except IndentationError Outline :=
  ((logicalLines lines).foldlM Layout.place Layout.empty).map Layout.outline

def ofText (text : String) : Except IndentationError Outline :=
  ofLines (Text.splitLines text.toList)

/-- Read the text of a script file, the line ends of which are unified before it
is split. -/
def ofFileText (text : String) : Except IndentationError Outline :=
  ofLines (Text.splitLines (Text.unifyNewlines text.toList))

end Runbook.Script
