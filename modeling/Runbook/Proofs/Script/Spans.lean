import Mathlib.Data.List.Basic
import Runbook.Script.Layout

/-! # Blocks in depth-first order

The blocks of an outline are kept in one list. What stands in a block takes up a
range of that list, in which every nested block comes directly before the blocks
inside it. While a script is read, this holds of everything that has been placed
so far, and the blocks that are still open are the last ones on the way down from
the root.
-/

namespace Runbook.Script

/-- A line together with the block that it stands in. -/
structure HeldLine where
  holder : Nat
  text : String
  deriving DecidableEq, Repr

namespace Outline

/-- The block that a block stands in. -/
def parent? (outline : Outline) (index : Nat) : Option Nat :=
  (outline.blocks[index]?).bind (·.parent)

/-- The lines in a block and below it, nested at most `fuel` deep. -/
def linesWithin (outline : Outline) : (fuel index : Nat) → List HeldLine
  | 0, _ => []
  | fuel + 1, index =>
      ((outline.blocks[index]?).map (·.entries)).getD [] |>.flatMap fun
        | .line text => [⟨index, text⟩]
        | .block nested => outline.linesWithin fuel nested

/-- The lines of an outline as they are met on a walk from the root that enters each
block where it stands. -/
def lines (outline : Outline) : List HeldLine := outline.linesWithin outline.blocks.length 0

/-- The lines that an entry of a block stands for. -/
def entryLines (outline : Outline) (fuel holder : Nat) : Entry → List HeldLine
  | .line text => [⟨holder, text⟩]
  | .block nested => outline.linesWithin fuel nested

/-- The instruction that an entry of a block stands for. -/
def entryInstruction (outline : Outline) (fuel : Nat) : Entry → Instruction
  | .line text => .line text
  | .block nested => .block (outline.instructionsWithin fuel nested)

theorem linesWithin_succ {outline : Outline} {index : Nat} {block : Block}
    (found : outline.blocks[index]? = some block) (fuel : Nat) :
    outline.linesWithin (fuel + 1) index =
      block.entries.flatMap (outline.entryLines fuel index) := by
  rw [linesWithin, found]
  exact List.flatMap_congr fun entry _ => by cases entry <;> rfl

theorem instructionsWithin_succ {outline : Outline} {index : Nat} {block : Block}
    (found : outline.blocks[index]? = some block) (fuel : Nat) :
    outline.instructionsWithin (fuel + 1) index =
      block.entries.map (outline.entryInstruction fuel) := by
  rw [instructionsWithin, found]
  exact List.map_congr_left fun entry _ => by cases entry <;> rfl

end Outline

/-! ## Ranges of blocks -/

variable {blocks : List Block}

/-- The entries of the block `holder` take up the blocks from `first` up to `last`,
and hold these lines. -/
inductive Spans (blocks : List Block) :
    (holder first last : Nat) → List Entry → List HeldLine → Prop
  | nil {holder first : Nat} : Spans blocks holder first first [] []
  | line {holder first last : Nat} {text : String} {entries : List Entry}
      {lines : List HeldLine} (rest : Spans blocks holder first last entries lines) :
      Spans blocks holder first last (.line text :: entries) (⟨holder, text⟩ :: lines)
  | block {holder first middle last width : Nat} {inner entries : List Entry}
      {inside lines : List HeldLine}
      (found : blocks[first]? = some ⟨some holder, width, inner⟩)
      (nested : Spans blocks first (first + 1) middle inner inside)
      (rest : Spans blocks holder middle last entries lines) :
      Spans blocks holder first last (.block first :: entries) (inside ++ lines)

namespace Spans

variable {holder first middle last : Nat} {entries more : List Entry}
  {lines others : List HeldLine}

theorem le (spans : Spans blocks holder first last entries lines) : first ≤ last := by
  induction spans with
  | nil => exact Nat.le_refl _
  | line _ induction => exact induction
  | block _ _ _ inner outer => omega

theorem append (left : Spans blocks holder first middle entries lines)
    (right : Spans blocks holder middle last more others) :
    Spans blocks holder first last (entries ++ more) (lines ++ others) := by
  induction left with
  | nil => exact right
  | line _ induction => exact .line (induction right)
  | block found nested _ _ induction =>
      rw [List.append_assoc]
      exact .block found nested (induction right)

/-- Only the blocks in the range matter. -/
theorem congr {changed : List Block} (spans : Spans blocks holder first last entries lines)
    (same : ∀ index, first ≤ index → index < last → changed[index]? = blocks[index]?) :
    Spans changed holder first last entries lines := by
  induction spans with
  | nil => exact .nil
  | line _ induction => exact .line (induction same)
  | @block _ first middle last _ _ _ _ _ found nested rest inner outer =>
      have nestedLe := nested.le
      have restLe := rest.le
      have entered := (same first (by omega) (by omega)).trans found
      refine .block entered (inner fun index low high => ?_) (outer fun index low high => ?_)
      · exact same index (by omega) (by omega)
      · exact same index (by omega) (by omega)

/-- With enough fuel a walk meets exactly the lines of the range. -/
theorem flatMap_entryLines (spans : Spans blocks holder first last entries lines) {fuel : Nat}
    (enough : last - first ≤ fuel) :
    entries.flatMap (Outline.entryLines ⟨blocks⟩ fuel holder) = lines := by
  induction spans generalizing fuel with
  | nil => rfl
  | line _ induction => rw [List.flatMap_cons, induction enough]; rfl
  | @block holder first middle last _ inner _ _ _ found nested rest insideInduction restInduction =>
      have nestedLe := nested.le
      have restLe := rest.le
      cases fuel with
      | zero => omega
      | succ fuel =>
          have insideEnough : middle - (first + 1) ≤ fuel := by omega
          have restEnough : last - middle ≤ fuel + 1 := by omega
          have insideLines := insideInduction insideEnough
          have restLines := restInduction restEnough
          have entered : Outline.linesWithin ⟨blocks⟩ (fuel + 1) first =
              inner.flatMap (Outline.entryLines ⟨blocks⟩ fuel first) :=
            Outline.linesWithin_succ found fuel
          rw [List.flatMap_cons, restLines, Outline.entryLines, entered, insideLines]

end Spans

/-! ## Open blocks -/

open Layout (innermost)

@[simp] theorem innermost_nil : innermost [] = ⟨0, 0⟩ := rfl

@[simp] theorem innermost_cons (block : OpenBlock) (outer : List OpenBlock) :
    innermost (block :: outer) = block := rfl

/-- The entries of the open blocks take up the blocks up to `last`, apart from what
stands `behind` in the innermost of them. Each open block is the last entry of the
one around it. -/
inductive Growing (blocks : List Block) :
    (last : Nat) → (behind : List Entry) → List HeldLine → List OpenBlock → Prop
  | root {last : Nat} {entries behind : List Entry} {lines : List HeldLine}
      (found : blocks[0]? = some ⟨none, 0, entries ++ behind⟩)
      (spans : Spans blocks 0 1 last entries lines) : Growing blocks last behind lines []
  | nested {last : Nat} {entries behind : List Entry} {before own : List HeldLine}
      {block : OpenBlock} {outer : List OpenBlock}
      (found : blocks[block.index]? =
        some ⟨some (innermost outer).index, block.indentation, entries ++ behind⟩)
      (spans : Spans blocks block.index (block.index + 1) last entries own)
      (around : Growing blocks block.index [.block block.index] before outer) :
      Growing blocks last behind (before ++ own) (block :: outer)

/-! Adding an entry changes only the block that it is added to. -/

theorem getElem?_append_same {index : Nat} {block : Block} (found : blocks[index]? = some block)
    (entry : Entry) :
    (Layout.append blocks index entry)[index]? =
      some { block with entries := block.entries ++ [entry] } := by
  simp [Layout.append, found]

theorem getElem?_append_other {index other : Nat} (different : index ≠ other) (entry : Entry) :
    (Layout.append blocks index entry)[other]? = blocks[other]? := by
  simp [Layout.append, different]

@[simp] theorem length_append (index : Nat) (entry : Entry) :
    (Layout.append blocks index entry).length = blocks.length := by
  simp [Layout.append]

namespace Growing

variable {last later : Nat} {behind : List Entry} {lines tail : List HeldLine}
  {nested : List OpenBlock}

theorem innermost_lt (growing : Growing blocks last behind lines nested) :
    (innermost nested).index < last := by
  cases growing with
  | root _ spans => exact spans.le
  | nested _ spans _ => exact spans.le

theorem indentation_eq (growing : Growing blocks last behind lines nested) :
    (blocks[(innermost nested).index]?).map (·.indentation) =
      some (innermost nested).indentation := by
  cases growing with
  | root found _ => rw [innermost_nil, found]; rfl
  | nested found _ _ => rw [innermost_cons, found]; rfl

theorem parent_eq {block : OpenBlock}
    (growing : Growing blocks last behind lines (block :: nested)) :
    (blocks[block.index]?).bind (·.parent) = some (innermost nested).index := by
  cases growing with
  | nested found _ _ => rw [found]; rfl

theorem congr {changed : List Block} (growing : Growing blocks last behind lines nested)
    (same : ∀ index < last, changed[index]? = blocks[index]?) :
    Growing changed last behind lines nested := by
  induction growing with
  | root found spans =>
      refine .root ((same 0 ?_).trans found) (spans.congr fun index _ high => same index high)
      have := spans.le
      omega
  | @nested last _ _ _ _ block _ found spans _ induction =>
      have spansLe := spans.le
      refine .nested ((same _ (by omega)).trans found)
        (spans.congr fun index _ high => same index high)
        (induction fun index low => same index (by omega))

/-- Blocks behind the last one can be added. -/
theorem extend (growing : Growing blocks last behind lines nested) (within : last ≤ blocks.length)
    (more : List Block) : Growing (blocks ++ more) last behind lines nested :=
  growing.congr fun _ low => List.getElem?_append_left (Nat.lt_of_lt_of_le low within)

/-- Add an entry to the innermost open block. -/
theorem add (growing : Growing blocks last [] lines nested) (entry : Entry) :
    Growing (Layout.append blocks (innermost nested).index entry) last [entry] lines nested := by
  cases growing with
  | root found spans =>
      refine .root ?_ (spans.congr fun index low _ => getElem?_append_other ?_ entry)
      · simpa using getElem?_append_same found entry
      · simp only [innermost_nil]
        omega
  | @nested _ entries _ _ _ block outer found spans around =>
      have changed : (Layout.append blocks block.index entry)[block.index]? =
          some ⟨some (innermost outer).index, block.indentation, entries ++ [entry]⟩ := by
        simpa using getElem?_append_same found entry
      refine .nested changed
        (spans.congr fun index low _ => getElem?_append_other ?_ entry)
        (around.congr fun index low => getElem?_append_other ?_ entry)
      · simp only [innermost_cons]
        omega
      · simp only [innermost_cons]
        omega

/-- What stands behind becomes part of the innermost open block. -/
theorem absorb (growing : Growing blocks last behind lines nested)
    (spans : Spans blocks (innermost nested).index last later behind tail) :
    Growing blocks later [] (lines ++ tail) nested := by
  cases growing with
  | root found own => exact .root (by simpa using found) (own.append spans)
  | nested found own around =>
      rw [List.append_assoc]
      exact .nested (by simpa using found) (own.append spans) around

/-- Open a block behind everything else, with one line in it. -/
theorem enter (growing : Growing blocks blocks.length [] lines nested) (width : Nat)
    (text : String) :
    Growing
      (Layout.append blocks (innermost nested).index (.block blocks.length) ++
        [⟨some (innermost nested).index, width, [.line text]⟩])
      (blocks.length + 1) [] (lines ++ [⟨blocks.length, text⟩])
      (⟨blocks.length, width⟩ :: nested) := by
  have around := growing.add (.block blocks.length)
  have opened := around.extend (by simp) [⟨some (innermost nested).index, width, [.line text]⟩]
  have entered :
      (Layout.append blocks (innermost nested).index (.block blocks.length) ++
        [⟨some (innermost nested).index, width, [.line text]⟩])[blocks.length]? =
          some ⟨some (innermost nested).index, width, [.line text] ++ []⟩ := by
    simp
  exact .nested entered (.line .nil) opened

theorem close {block : OpenBlock} (growing : Growing blocks last [] lines (block :: nested)) :
    Growing blocks last [] lines nested := by
  cases growing with
  | nested found spans around =>
      simpa using around.absorb (.block (by simpa using found) spans .nil)

theorem closeWhile (growing : Growing blocks last [] lines nested) (closes : OpenBlock → Bool) :
    Growing blocks last [] lines (nested.dropWhile closes) := by
  induction nested with
  | nil => exact growing
  | cons block outer induction =>
      rw [List.dropWhile_cons]
      split
      · exact induction growing.close
      · exact growing

theorem closeAll (growing : Growing blocks last [] lines nested) :
    Growing blocks last [] lines [] := by
  induction nested with
  | nil => exact growing
  | cons block outer induction => exact induction growing.close

/-- The lines that have been placed are the lines of the outline. -/
theorem lines_eq (growing : Growing blocks blocks.length [] lines nested) :
    Outline.lines ⟨blocks⟩ = lines := by
  cases growing.closeAll with
  | @root _ entries _ _ found spans =>
      have positive : 0 < blocks.length := (List.getElem?_eq_some_iff.mp found).1
      rcases Nat.exists_eq_add_one.mpr positive with ⟨fuel, size⟩
      have enough : blocks.length - 1 ≤ fuel := by omega
      have walked := spans.flatMap_entryLines enough
      rw [Outline.lines, size, Outline.linesWithin_succ found, List.append_nil, walked]

end Growing

end Runbook.Script
