import Runbook.Proofs.Script.Placing
import Runbook.Script.Render

/-! # Rendered lines

A script is rendered line by line: each line of its outline becomes a row that is
indented by the level of its block. Such a row says what the line says, and reading
it neither drops it nor joins it to the next one.
-/

namespace Runbook.Script

open Text (isMark isBlank Unbroken Trimmed)

/-- A line of text at some level. -/
def row (indent : List Char) (level : Nat) (text : List Char) : List Char :=
  repeated indent level ++ text

/-! ## Rows of an outline -/

theorem renderAll_map_entryInstruction {blocks : List Block} {holder first last level fuel : Nat}
    {entries : List Entry} {lines : List HeldLine} (indent : List Char)
    (spans : Spans blocks holder first last entries lines) (atLevel : AtLevel blocks holder level)
    (before : holder < first) (enough : last - first ≤ fuel) :
    renderAll indent level (entries.map (Outline.entryInstruction ⟨blocks⟩ fuel)) =
      Text.joinLines (lines.map fun line =>
        row indent (Outline.level ⟨blocks⟩ line.holder) line.text.toList) := by
  induction spans generalizing level fuel with
  | nil => rfl
  | line _ induction =>
      have rest := induction atLevel before enough
      rw [List.map_cons, renderAll, rest, Outline.entryInstruction, Instruction.render,
        List.map_cons, Text.joinLines_cons, atLevel.level_eq, row]
      simp only [List.append_assoc, List.singleton_append]
  | block found nested rest inner outer =>
      have nestedLe := nested.le
      have restLe := rest.le
      cases fuel with
      | zero => omega
      | succ fuel =>
          rename_i first middle last _ _ _ _ _
          have insideEnough : middle - (first + 1) ≤ fuel := by omega
          have behindEnough : last - middle ≤ fuel + 1 := by omega
          have inside := inner (.nested found rfl before atLevel) (Nat.lt_succ_self _) insideEnough
          have behind := outer atLevel (by omega) behindEnough
          rw [List.map_cons, renderAll, behind, Outline.entryInstruction, Instruction.render,
            Outline.instructionsWithin_succ found, inside, List.map_append, Text.joinLines_append]

theorem Growing.render_eq {blocks : List Block} {lines : List HeldLine} {nested : List OpenBlock}
    (growing : Growing blocks blocks.length [] lines nested) (indent : String) :
    (Outline.render ⟨blocks⟩ indent).toList = Text.joinLines (lines.map fun line =>
      row indent.toList (Outline.level ⟨blocks⟩ line.holder) line.text.toList) := by
  cases growing.closeAll with
  | @root _ entries _ _ found spans =>
      have root : AtLevel blocks 0 0 := .root found rfl
      have positive : 0 < blocks.length := Nat.zero_lt_of_lt root.lt_length
      rcases Nat.exists_eq_add_one.mpr positive with ⟨fuel, size⟩
      have enough : blocks.length - 1 ≤ fuel := by omega
      have rendered := renderAll_map_entryInstruction indent.toList spans root (by omega) enough
      rw [Outline.render, Outline.renderBlock, String.toList_ofList, root.level_eq,
        Outline.instructionsOf, size, Outline.instructionsWithin_succ found, List.append_nil,
        rendered]

theorem Reads.render_eq {placements : List Placement} {layout : Layout}
    (read : Reads placements.reverse layout) (indent : String) :
    (layout.outline.render indent).toList = Text.joinLines (placements.map fun placement =>
      row indent.toList placement.depth placement.text.toList) := by
  have rows := read.growing.render_eq indent
  rw [List.reverse_reverse, List.map_map] at rows
  rw [Layout.outline, rows]
  apply congrArg Text.joinLines
  apply List.map_congr_left
  intro placement member
  have level := (read.atLevel placement (by simpa using member)).level_eq
  simp only [Function.comp_apply, Placement.held, level]

/-! ## Reading rows -/

/-- What a line of a script can say. -/
structure Plain (text : List Char) : Prop where
  opening : ∃ mark, text.head? = some mark ∧ mark ≠ '#'
  trimmed : Trimmed text
  unbroken : Unbroken text

theorem plain_content {line : LogicalLine} (counts : Counts line.text)
    (unbroken : Unbroken line.text) : Plain line.content where
  opening := by
    rcases counts with ⟨mark, found, notComment⟩
    exact ⟨mark, (Text.head?_strip line.text).trans found, notComment⟩
  trimmed := Text.trimmed_strip line.text
  unbroken := unbroken.subset (Text.strip_subset line.text)

variable {indent text : List Char} {level : Nat}

theorem forall_mem_repeated {P : Char → Prop} (indent : ∀ c ∈ text, P c) (count : Nat) :
    ∀ c ∈ repeated text count, P c := by
  intro c member
  rcases List.mem_flatten.mp member with ⟨part, inParts, inPart⟩
  rw [List.eq_of_mem_replicate inParts] at inPart
  exact indent c inPart

@[simp] theorem length_repeated (text : List Char) (count : Nat) :
    (repeated text count).length = count * text.length := by
  simp [repeated]

namespace Plain

variable (plain : Plain text) (blanks : ∀ c ∈ indent, c = ' ')
include plain blanks

theorem unbroken_row (level : Nat) : Unbroken (row indent level text) := by
  refine Unbroken.append (fun c member => ?_) plain.unbroken
  rw [forall_mem_repeated blanks level c member]
  decide

theorem strip_row (level : Nat) : Text.strip (row indent level text) = text := by
  apply Text.strip_append_of_trimmed _ plain.trimmed
  intro c member
  rw [forall_mem_repeated blanks level c member]
  decide

theorem counts_row (level : Nat) : Counts (row indent level text) := by
  rw [Counts, ← Text.head?_strip, plain.strip_row blanks]
  exact plain.opening

theorem continued?_row (level : Nat) (ends : text.getLast? ≠ some '\\') :
    continued? (row indent level text) = none := by
  rwa [continued?_eq_none_iff, ← Text.getLast?_strip, plain.strip_row blanks]

theorem margin_row (level : Nat) : margin (row indent level text) = repeated indent level := by
  have pad : ∀ c ∈ repeated indent level, (c == ' ' || c == '\t') = true := by
    intro c member
    rw [forall_mem_repeated blanks level c member]
    decide
  rw [margin, row, List.takeWhile_append_of_pos pad]
  cases text with
  | nil => exact List.append_nil _
  | cons c rest =>
      have mark := plain.trimmed.first c rfl
      rw [List.takeWhile_cons_of_neg, List.append_nil]
      intro inMargin
      simp only [Bool.or_eq_true, beq_iff_eq] at inMargin
      rcases inMargin with rfl | rfl <;> exact absurd mark (by decide)

end Plain

/-- A row is indented in proportion to its level. -/
theorem indentation_row {line : LogicalLine} (plain : Plain text) (blanks : ∀ c ∈ indent, c = ' ')
    (same : line.text = row indent level text) :
    line.indentation = .ok (level * indent.length) := by
  rw [indentation_eq_ok_iff, LogicalLine.width, same, plain.margin_row blanks]
  refine ⟨fun mixed => ?_, (length_repeated indent level).symm⟩
  have blank := forall_mem_repeated blanks level '\t' mixed.2
  contradiction

end Runbook.Script
