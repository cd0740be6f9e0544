/-!
The nested instructions of a script. A script is read into an outline, a list of
blocks in the order in which they open, and an outline describes instructions:
lines, some of which are followed by a block of further instructions.
-/

namespace Runbook.Script

inductive Instruction
  | line (text : String)
  | block (body : List Instruction)

/-- What stands in a block of an outline: a line, or the index of a block that
is nested at this place. -/
inductive Entry
  | line (text : String)
  | block (index : Nat)
  deriving DecidableEq, Repr

structure Block where
  parent : Option Nat
  indentation : Nat
  entries : List Entry
  deriving DecidableEq, Repr

/-- The blocks of a script in the order in which they open. The first of them
is the root. -/
structure Outline where
  blocks : List Block
  deriving DecidableEq, Repr

namespace Outline

/-- Count the steps from a block to the root, following at most `fuel` parents. -/
def levelWithin (outline : Outline) : (fuel index : Nat) → Nat
  | 0, _ => 0
  | fuel + 1, index =>
      match (outline.blocks[index]?).bind (·.parent) with
      | none => 0
      | some parent => outline.levelWithin fuel parent + 1

/-- How deep a block is nested. The root has level zero. -/
def level (outline : Outline) (index : Nat) : Nat :=
  outline.levelWithin outline.blocks.length index

/-- The instructions of a block, nested at most `fuel` deep. -/
def instructionsWithin (outline : Outline) : (fuel index : Nat) → List Instruction
  | 0, _ => []
  | fuel + 1, index =>
      ((outline.blocks[index]?).map (·.entries)).getD [] |>.map fun
        | .line text => .line text
        | .block nested => .block (outline.instructionsWithin fuel nested)

def instructionsOf (outline : Outline) (index : Nat) : List Instruction :=
  outline.instructionsWithin outline.blocks.length index

def instructions (outline : Outline) : List Instruction := outline.instructionsOf 0

/-- The number of lines and blocks that stand in some block. -/
def entryCount (outline : Outline) : Nat :=
  (outline.blocks.map (·.entries.length)).foldr (· + ·) 0

end Outline

end Runbook.Script
