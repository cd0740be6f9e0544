import Mathlib.Data.List.Forall2
import Runbook.Proofs.Script.Rendering

/-! # Reading rendered instructions

Rendering an outline and reading the text again gives the outline back, with every
block as wide as its level says. Whatever the widths of a script are, each of its
lines goes where a line goes whose width is in proportion to its level, because
the blocks that a line closes are the same in both.
-/

namespace Runbook.Script

open Layout (innermost)
open Text (Unbroken)

/-! ## Outlines without widths -/

def Block.withoutWidth (block : Block) : Block := { block with indentation := 0 }

def Outline.withoutWidths (outline : Outline) : Outline :=
  ⟨outline.blocks.map Block.withoutWidth⟩

namespace Outline

@[simp] theorem parent?_withoutWidths (outline : Outline) (index : Nat) :
    outline.withoutWidths.parent? index = outline.parent? index := by
  rw [parent?, parent?, withoutWidths, List.getElem?_map]
  cases outline.blocks[index]? <;> rfl

@[simp] theorem level_withoutWidths (outline : Outline) (index : Nat) :
    outline.withoutWidths.level index = outline.level index := by
  have same : ∀ fuel index,
      outline.withoutWidths.levelWithin fuel index = outline.levelWithin fuel index := by
    intro fuel
    induction fuel with
    | zero => intro index; rfl
    | succ fuel induction =>
        intro index
        have parent := outline.parent?_withoutWidths index
        rw [parent?, parent?] at parent
        rw [levelWithin, levelWithin, parent]
        cases (outline.blocks[index]?).bind (·.parent) with
        | none => rfl
        | some parent => simp only [induction]
  rw [level, level, same, withoutWidths, List.length_map]

@[simp] theorem instructions_withoutWidths (outline : Outline) :
    outline.withoutWidths.instructions = outline.instructions := by
  have same : ∀ fuel index,
      outline.withoutWidths.instructionsWithin fuel index =
        outline.instructionsWithin fuel index := by
    intro fuel
    induction fuel with
    | zero => intro index; rfl
    | succ fuel induction =>
        intro index
        have entries : (outline.withoutWidths.blocks[index]?).map (·.entries) =
            (outline.blocks[index]?).map (·.entries) := by
          rw [withoutWidths, List.getElem?_map]
          cases outline.blocks[index]? <;> rfl
        rw [instructionsWithin, instructionsWithin, entries]
        simp only [induction]
  rw [instructions, instructions, instructionsOf, instructionsOf, same, withoutWidths,
    List.length_map]

/-- Two outlines that differ at most in the widths of their blocks. -/
structure SameShape (first second : Outline) : Prop where
  blocks : first.withoutWidths = second.withoutWidths
  size : first.blocks.length = second.blocks.length
  instructions : first.instructions = second.instructions
  parent (index : Nat) : first.parent? index = second.parent? index
  level (index : Nat) : first.level index = second.level index

theorem sameShape_of_withoutWidths {first second : Outline}
    (same : first.withoutWidths = second.withoutWidths) : SameShape first second where
  blocks := same
  size := by
    have sizes := congrArg (fun outline => outline.blocks.length) same
    simpa [withoutWidths] using sizes
  instructions := by
    rw [← first.instructions_withoutWidths, same, instructions_withoutWidths]
  parent index := by rw [← first.parent?_withoutWidths, same, parent?_withoutWidths]
  level index := by rw [← first.level_withoutWidths, same, level_withoutWidths]

end Outline

/-! ## Changing widths -/

/-- Open blocks with each width in proportion to how many blocks are around. -/
def rescale (unit : Nat) : List OpenBlock → List OpenBlock
  | [] => []
  | block :: outer => ⟨block.index, (outer.length + 1) * unit⟩ :: rescale unit outer

/-- A layout that differs from another one in its widths, which are in proportion
to the levels. -/
structure Rescaled (unit : Nat) (layout scaled : Layout) : Prop where
  blocks : scaled.blocks.map Block.withoutWidth = layout.blocks.map Block.withoutWidth
  nested : scaled.nested = rescale unit layout.nested

variable {unit : Nat}

theorem innermost_rescale (unit : Nat) (nested : List OpenBlock) :
    innermost (rescale unit nested) = ⟨(innermost nested).index, nested.length * unit⟩ := by
  cases nested with
  | nil => simp [rescale]
  | cons block outer => rfl

theorem length_rescale (unit : Nat) (nested : List OpenBlock) :
    (rescale unit nested).length = nested.length := by
  induction nested with
  | nil => rfl
  | cons block outer induction => rw [rescale, List.length_cons, List.length_cons, induction]

theorem dropWhile_rescale (positive : 0 < unit) (closed nested : List OpenBlock) :
    (rescale unit (closed ++ nested)).dropWhile
        (fun block => nested.length * unit < block.indentation) = rescale unit nested := by
  induction closed with
  | nil =>
      apply dropWhile_eq_self
      rw [innermost_rescale]
      exact Nat.le_refl _
  | cons block outer induction =>
      have deeper : nested.length * unit < ((outer ++ nested).length + 1) * unit := by
        rw [Nat.mul_lt_mul_right positive, List.length_append]
        omega
      rw [List.cons_append, rescale, List.dropWhile_cons_of_pos (by simpa using deeper),
        induction]

theorem map_withoutWidth_append (blocks : List Block) (index : Nat) (entry : Entry) :
    (Layout.append blocks index entry).map Block.withoutWidth =
      Layout.append (blocks.map Block.withoutWidth) index entry := by
  apply List.ext_getElem?
  intro other
  simp only [Layout.append, List.getElem?_map, List.getElem?_modify]
  cases blocks[other]? with
  | none => rfl
  | some block => by_cases same : index = other <;> simp [same, Block.withoutWidth]

/-- A line goes to the same place when its width is in proportion to its level. -/
theorem Step.rescaled {layout placed scaled : Layout} {width : Nat} {text : String}
    (positive : 0 < unit) (step : Step layout width text placed)
    (before : Rescaled unit layout scaled) :
    ∃ after, Step scaled (placed.nested.length * unit) text after ∧
      Rescaled unit placed after := by
  rcases scaled with ⟨others, open_⟩
  rcases before with ⟨same, rfl⟩
  simp only at same
  have size : others.length = layout.blocks.length := by
    simpa using congrArg List.length same
  cases step with
  | @beside nested closed fits =>
      have parts := List.takeWhile_append_dropWhile
        (p := fun block => decide (width < block.indentation)) (l := layout.nested)
      rw [closed] at parts
      have closes := dropWhile_rescale positive
        (layout.nested.takeWhile fun block => decide (width < block.indentation)) nested
      rw [parts] at closes
      have target := innermost_rescale unit nested
      refine ⟨_, .beside closes ?_, ?_, rfl⟩
      · rw [target]
      · rw [target, map_withoutWidth_append, map_withoutWidth_append, same]
  | below deeper =>
      have target := innermost_rescale unit layout.nested
      refine ⟨_, .below ?_, ?_, ?_⟩
      · rw [target, List.length_cons, Nat.mul_lt_mul_right positive]
        exact Nat.lt_succ_self _
      · rw [List.map_append, List.map_append, map_withoutWidth_append, map_withoutWidth_append,
          same, target, size]
        rfl
      · rw [rescale, size, List.length_cons]

/-- Where a line goes when its width is in proportion to its level. -/
def Placement.rescaled (unit : Nat) (placement : Placement) : Placement :=
  { placement with width := placement.depth * unit }

theorem Reads.rescaled {history : List Placement} {layout : Layout} (positive : 0 < unit)
    (read : Reads history layout) :
    ∃ scaled, Reads (history.map (Placement.rescaled unit)) scaled ∧
      Rescaled unit layout scaled := by
  induction read with
  | start => exact ⟨.empty, .start, rfl, rfl⟩
  | step _ step induction =>
      rcases induction with ⟨scaled, reads, before⟩
      rcases step.rescaled positive before with ⟨after, again, same⟩
      have placed := reads.step again
      rw [same.nested, innermost_rescale, length_rescale] at placed
      exact ⟨after, placed, same⟩

/-! ## Reading and rendering -/

/-- A line that can only go where the placement says. -/
def LogicalLine.Fits (line : LogicalLine) (placement : Placement) : Prop :=
  line.indentation = .ok placement.width ∧ String.ofList line.content = placement.text

theorem foldlM_place_of_reads {history : List Placement} {layout : Layout}
    (read : Reads history layout) {reversed : List LogicalLine}
    (fits : List.Forall₂ LogicalLine.Fits reversed history) :
    reversed.reverse.foldlM Layout.place Layout.empty = .ok layout := by
  induction read generalizing reversed with
  | start =>
      cases fits
      rfl
  | step _ step induction =>
      cases fits with
      | @cons line _ before _ last others =>
          rcases last with ⟨indentation, content⟩
          have width := ((indentation_eq_ok_iff line _).mp indentation).2
          simp only at indentation content width
          rw [width] at indentation step
          rw [← content] at step
          have placed := (place_eq_ok_iff _ _ line).mpr ⟨indentation, step⟩
          rw [List.reverse_cons, List.foldlM_append, induction others]
          simp only [List.foldlM_cons, List.foldlM_nil, bind, Except.bind, placed, pure,
            Except.pure]

section Reread

variable {lines : List (List Char)} {placements : List Placement}
  (same : List.Forall₂ LogicalLine.Matches (logicalLines lines) placements)
include same

theorem plain_of_matches (unbroken : ∀ line ∈ lines, Unbroken line) :
    ∀ placement ∈ placements, Plain placement.text.toList := by
  intro placement member
  have inTexts := List.mem_map_of_mem (f := (·.text)) member
  rw [texts_eq_of_matches same] at inTexts
  rcases List.mem_map.mp inTexts with ⟨line, inScript, content⟩
  rw [← content, String.toList_ofList]
  exact plain_content (counts_of_mem_logicalLines inScript)
    (unbroken_of_mem_logicalLines unbroken inScript)

/-- Only what the last line says can end in a backslash. -/
theorem getLast?_of_matches :
    ∀ placement ∈ placements.dropLast, placement.text.toList.getLast? ≠ some '\\' := by
  intro placement member
  have inTexts := List.mem_map_of_mem (f := (·.text)) member
  rw [List.map_dropLast, texts_eq_of_matches same, ← List.map_dropLast] at inTexts
  rcases List.mem_map.mp inTexts with ⟨line, inScript, content⟩
  rw [← content, String.toList_ofList, LogicalLine.content, Text.getLast?_strip]
  exact (continued?_eq_none_iff line.text).mp (continued?_of_mem_logicalLines inScript)

end Reread

section Rows

variable {indent : List Char} {placements : List Placement} (blanks : ∀ c ∈ indent, c = ' ')
  (plain : ∀ placement ∈ placements, Plain placement.text.toList)
include blanks plain

theorem fits_of_rows {lines : List LogicalLine}
    (rows : lines.map LogicalLine.text = placements.map fun placement =>
      row indent placement.depth placement.text.toList) :
    List.Forall₂ LogicalLine.Fits lines
      (placements.map (Placement.rescaled indent.length)) := by
  induction placements generalizing lines with
  | nil =>
      rw [List.map_nil, List.map_eq_nil_iff] at rows
      rw [rows]
      exact .nil
  | cons placement placements induction =>
      rcases List.map_eq_cons_iff.mp rows with ⟨line, rest, rfl, text, others⟩
      have own := plain placement List.mem_cons_self
      refine .cons ⟨indentation_row own blanks text, ?_⟩
        (induction (fun other member => plain other (List.mem_cons_of_mem _ member)) others)
      rw [LogicalLine.content, text, own.strip_row blanks, String.ofList_toList]
      rfl

theorem unbroken_rows : ∀ line ∈ placements.map fun placement =>
    row indent placement.depth placement.text.toList, Unbroken line := by
  intro line member
  rcases List.mem_map.mp member with ⟨placement, inside, rfl⟩
  exact (plain placement inside).unbroken_row blanks placement.depth

/-- Rows are logical lines as they are. -/
theorem logicalLines_rows
    (ends : ∀ placement ∈ placements.dropLast, placement.text.toList.getLast? ≠ some '\\') :
    (logicalLines (placements.map fun placement =>
        row indent placement.depth placement.text.toList)).map LogicalLine.text =
      placements.map fun placement => row indent placement.depth placement.text.toList := by
  have bare := fun line member => withoutLineEnd_of_unbroken (unbroken_rows blanks plain line member)
  refine logicalLines_map_text ?_ bare ?_
  · intro line member
    rcases List.mem_map.mp member with ⟨placement, inside, rfl⟩
    exact (plain placement inside).counts_row blanks placement.depth
  · intro line member
    rw [← List.map_dropLast] at member
    rcases List.mem_map.mp member with ⟨placement, inside, rfl⟩
    have kept := (List.dropLast_sublist placements).mem inside
    exact (plain placement kept).continued?_row blanks placement.depth (ends placement inside)

end Rows

theorem ofText_render {text indent : String} {outline : Outline}
    (read : ofText text = .ok outline) (nonempty : indent ≠ "")
    (blanks : ∀ c ∈ indent.toList, c = ' ') :
    ∃ again, ofText (outline.render indent) = .ok again ∧ again.SameShape outline := by
  rcases reads_of_ofLines read with ⟨layout, placements, rfl, reads, same⟩
  have unbroken : ∀ line ∈ Text.splitLines text.toList, Unbroken line :=
    fun line member => Text.unbroken_of_mem_splitLines member
  have positive : 0 < indent.toList.length := by
    rw [List.length_pos_iff]
    simpa using nonempty
  rcases reads.rescaled positive with ⟨scaled, again, rescaled⟩
  have plain := plain_of_matches same unbroken
  have ends := getLast?_of_matches same
  have fits := fits_of_rows blanks plain (logicalLines_rows blanks plain ends)
  rw [List.map_reverse] at again
  have placed := foldlM_place_of_reads again (List.forall₂_reverse_iff.mpr fits)
  rw [List.reverse_reverse] at placed
  refine ⟨scaled.outline, ?_, Outline.sameShape_of_withoutWidths ?_⟩
  · rw [ofText, reads.render_eq, Text.splitLines_joinLines _ (unbroken_rows blanks plain),
      ofLines, placed]
    rfl
  · exact congrArg Outline.mk rescaled.blocks

/-- A script that is indented from its first line on and ends in a backslash. -/
def indentedText : String := "\ta\\\n # b\n c\n\td\n\t\te \\"

def indentedOutline : Outline where
  blocks := [⟨none, 0, [.block 1]⟩, ⟨some 0, 1, [.line "a c", .line "d", .block 2]⟩,
    ⟨some 1, 2, [.line "e \\"]⟩]

theorem ofText_render_indentedText :
    ofText indentedText = .ok indentedOutline ∧
      ∃ again, ofText (indentedOutline.render "   ") = .ok again ∧
        again.SameShape indentedOutline := by
  have read : ofText indentedText = .ok indentedOutline := by decide +kernel
  exact ⟨read, ofText_render read (by decide) (by simp)⟩

end Runbook.Script
