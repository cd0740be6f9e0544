import Runbook.Proofs.Script.Continuation
import Runbook.Proofs.Script.Spans

/-! # Placing lines

What one line does to a layout depends on its width and its content alone, and is
one of two things: the line joins a block that is open, or it opens a block of its
own. Reading a script places its logical lines one after the other.
-/

namespace Runbook.Script

open Layout (innermost)

/-! ## One line -/

theorem indentation_eq_ok_iff (line : LogicalLine) (width : Nat) :
    line.indentation = .ok width ↔
      ¬(' ' ∈ margin line.text ∧ '\t' ∈ margin line.text) ∧ width = line.width := by
  rw [LogicalLine.indentation, LogicalLine.width]
  by_cases mixed : ' ' ∈ margin line.text ∧ '\t' ∈ margin line.text
  · rw [if_pos (by simpa using mixed)]
    constructor
    · intro result
      contradiction
    · intro ⟨plain, _⟩
      exact absurd mixed plain
  · rw [if_neg (by simpa using mixed), Except.ok.injEq]
    exact ⟨fun result => ⟨mixed, result.symm⟩, fun plain => plain.2.symm⟩

/-- What placing a line of some width makes of a layout. -/
inductive Step (layout : Layout) (width : Nat) (text : String) : Layout → Prop
  | beside {nested : List OpenBlock}
      (closed : layout.nested.dropWhile (fun block => width < block.indentation) = nested)
      (fits : width = (innermost nested).indentation) :
      Step layout width text
        ⟨Layout.append layout.blocks (innermost nested).index (.line text), nested⟩
  | below (deeper : (innermost layout.nested).indentation < width) :
      Step layout width text
        ⟨Layout.append layout.blocks (innermost layout.nested).index
            (.block layout.blocks.length) ++
          [⟨some (innermost layout.nested).index, width, [.line text]⟩],
          ⟨layout.blocks.length, width⟩ :: layout.nested⟩

/-- Blocks that are not deeper than a line stay open. -/
theorem dropWhile_eq_self {nested : List OpenBlock} {width : Nat}
    (within : (innermost nested).indentation ≤ width) :
    nested.dropWhile (fun block => width < block.indentation) = nested := by
  cases nested with
  | nil => rfl
  | cons block outer =>
      rw [innermost_cons] at within
      rw [List.dropWhile_cons_of_neg]
      simpa using within

theorem place_eq_ok_iff (layout placed : Layout) (line : LogicalLine) :
    layout.place line = .ok placed ↔
      line.indentation = .ok line.width ∧
        Step layout line.width (String.ofList line.content) placed := by
  rw [Layout.place]
  cases indentation : line.indentation with
  | error error => simp [bind, Except.bind]
  | ok width =>
      rcases (indentation_eq_ok_iff line width).mp indentation with ⟨_, rfl⟩
      simp only [bind, Except.bind, pure, Except.pure, true_and]
      constructor
      · intro result
        split at result
        · split at result
          · rename_i fits
            cases result
            exact .beside rfl fits
          · contradiction
        · rename_i notShallower
          split at result
          · rename_i deeper
            cases result
            exact .below deeper
          · rename_i notDeeper
            cases result
            exact .beside (dropWhile_eq_self (by omega)) (by omega)
      · intro step
        cases step with
        | beside closed fits =>
            subst closed
            by_cases shallower : line.width < (innermost layout.nested).indentation
            · rw [if_pos shallower, if_pos fits]
              rfl
            · have kept := dropWhile_eq_self (Nat.le_of_not_lt shallower)
              rw [kept] at fits ⊢
              rw [if_neg shallower, if_neg (by omega)]
              rfl
        | below deeper =>
            rw [if_neg (by omega), if_pos deeper]
            rfl

namespace Step

variable {layout placed : Layout} {width : Nat} {text : String}

/-- A block that is there keeps its parent and its width. -/
theorem getElem? (step : Step layout width text placed) {index : Nat} {block : Block}
    (found : layout.blocks[index]? = some block) :
    ∃ entries, placed.blocks[index]? = some { block with entries := entries } := by
  have added : ∀ (target : Nat) (entry : Entry),
      ∃ entries, (Layout.append layout.blocks target entry)[index]? =
        some { block with entries := entries } := by
    intro target entry
    by_cases same : target = index
    · subst same
      exact ⟨_, getElem?_append_same found entry⟩
    · exact ⟨block.entries, (getElem?_append_other same entry).trans found⟩
  cases step with
  | beside => exact added _ _
  | below =>
      rcases added (innermost layout.nested).index (.block layout.blocks.length) with
        ⟨entries, kept⟩
      have within := (List.getElem?_eq_some_iff.mp kept).1
      exact ⟨entries, (List.getElem?_append_left within).trans kept⟩

/-- The line is the last one on a walk through what has been placed. -/
theorem growing (step : Step layout width text placed) {lines : List HeldLine}
    (before : Growing layout.blocks layout.blocks.length [] lines layout.nested) :
    Growing placed.blocks placed.blocks.length []
      (lines ++ [⟨(innermost placed.nested).index, text⟩]) placed.nested := by
  cases step with
  | beside closed fits =>
      subst closed
      have closed := before.closeWhile fun block => decide (width < block.indentation)
      have added := closed.add (.line text)
      rw [length_append]
      exact added.absorb (.line .nil)
  | below deeper =>
      rw [List.length_append, length_append]
      exact before.enter width text

end Step

/-! ## A whole script -/

/-- Where a line has been placed: in which block, how deep, and with which width and
content. -/
structure Placement where
  holder : Nat
  depth : Nat
  width : Nat
  text : String

/-- The line without what is known only while it is read. -/
def Placement.held (placement : Placement) : HeldLine := ⟨placement.holder, placement.text⟩

/-- Placing lines one after the other. The history holds the last line first. -/
inductive Reads : List Placement → Layout → Prop
  | start : Reads [] .empty
  | step {history : List Placement} {layout placed : Layout} {width : Nat} {text : String}
      (read : Reads history layout) (step : Step layout width text placed) :
      Reads (⟨(innermost placed.nested).index, placed.nested.length, width, text⟩ :: history)
        placed

/-- The width and the content of a line are all that matters for where it goes. -/
def LogicalLine.Matches (line : LogicalLine) (placement : Placement) : Prop :=
  line.width = placement.width ∧ String.ofList line.content = placement.text

theorem texts_eq_of_matches {lines : List LogicalLine} {placements : List Placement}
    (same : List.Forall₂ LogicalLine.Matches lines placements) :
    placements.map (·.text) = lines.map fun line => String.ofList line.content := by
  induction same with
  | nil => rfl
  | cons first _ induction => rw [List.map_cons, List.map_cons, induction, first.2]

theorem reads_of_foldlM {lines : List LogicalLine} {layout final : Layout}
    {history : List Placement} (read : Reads history layout)
    (placed : lines.foldlM Layout.place layout = .ok final) :
    ∃ added, Reads (added.reverse ++ history) final ∧
      List.Forall₂ LogicalLine.Matches lines added := by
  induction lines generalizing layout history with
  | nil =>
      cases placed
      exact ⟨[], read, .nil⟩
  | cons line rest induction =>
      rw [List.foldlM_cons] at placed
      cases first : layout.place line with
      | error error =>
          rw [first] at placed
          contradiction
      | ok next =>
          rw [first] at placed
          have step := ((place_eq_ok_iff layout next line).mp first).2
          rcases induction (read.step step) placed with ⟨added, reads, same⟩
          exact ⟨_ :: added, by simpa using reads, .cons ⟨rfl, rfl⟩ same⟩

/-- What has been read of a script that can be read. -/
theorem reads_of_ofLines {lines : List (List Char)} {outline : Outline}
    (read : ofLines lines = .ok outline) :
    ∃ layout added, outline = layout.outline ∧ Reads added.reverse layout ∧
      List.Forall₂ LogicalLine.Matches (logicalLines lines) added := by
  rw [ofLines] at read
  cases placed : (logicalLines lines).foldlM Layout.place Layout.empty with
  | error error =>
      rw [placed] at read
      contradiction
  | ok layout =>
      rw [placed] at read
      cases read
      rcases reads_of_foldlM .start placed with ⟨added, reads, same⟩
      exact ⟨layout, added, rfl, by simpa using reads, same⟩

namespace Reads

variable {history : List Placement} {layout : Layout}

theorem growing (read : Reads history layout) :
    Growing layout.blocks layout.blocks.length [] (history.reverse.map Placement.held)
      layout.nested := by
  induction read with
  | start =>
      have root : Layout.empty.blocks[0]? = some ⟨none, 0, [] ++ []⟩ := rfl
      exact .root root .nil
  | step _ step induction =>
      rw [List.reverse_cons, List.map_append]
      exact step.growing induction

theorem lines_eq (read : Reads history layout) :
    layout.outline.lines = history.reverse.map Placement.held :=
  read.growing.lines_eq

end Reads

/-! ## Levels -/

/-- A block is as many steps away from the root as its level says, and each step leads
to an earlier block. -/
inductive AtLevel (blocks : List Block) : (index level : Nat) → Prop
  | root {index : Nat} {block : Block} (found : blocks[index]? = some block)
      (top : block.parent = none) : AtLevel blocks index 0
  | nested {index parent level : Nat} {block : Block} (found : blocks[index]? = some block)
      (inside : block.parent = some parent) (earlier : parent < index)
      (above : AtLevel blocks parent level) : AtLevel blocks index (level + 1)

namespace AtLevel

variable {blocks : List Block} {index level : Nat}

theorem le (atLevel : AtLevel blocks index level) : level ≤ index := by
  induction atLevel with
  | root => exact Nat.zero_le _
  | nested _ _ earlier _ induction => omega

theorem lt_length (atLevel : AtLevel blocks index level) : index < blocks.length := by
  cases atLevel with
  | root found _ => exact (List.getElem?_eq_some_iff.mp found).1
  | nested found _ _ _ => exact (List.getElem?_eq_some_iff.mp found).1

theorem levelWithin_eq (atLevel : AtLevel blocks index level) {fuel : Nat}
    (enough : level ≤ fuel) : Outline.levelWithin ⟨blocks⟩ fuel index = level := by
  induction atLevel generalizing fuel with
  | root found top => cases fuel <;> simp [Outline.levelWithin, found, top]
  | nested found inside _ _ induction =>
      cases fuel with
      | zero => omega
      | succ fuel =>
          have above := induction (Nat.le_of_succ_le_succ enough)
          simp [Outline.levelWithin, found, inside, above]

theorem level_eq (atLevel : AtLevel blocks index level) :
    Outline.level ⟨blocks⟩ index = level := by
  have bound := atLevel.le
  have inside := atLevel.lt_length
  exact atLevel.levelWithin_eq (by simp only; omega)

theorem step {layout placed : Layout} {width : Nat} {text : String}
    (atLevel : AtLevel layout.blocks index level) (step : Step layout width text placed) :
    AtLevel placed.blocks index level := by
  induction atLevel with
  | root found top =>
      rcases step.getElem? found with ⟨entries, kept⟩
      exact .root kept top
  | nested found inside earlier _ induction =>
      rcases step.getElem? found with ⟨entries, kept⟩
      exact .nested kept inside earlier induction

end AtLevel

/-- The innermost open block is as deep as there are nested blocks open. -/
theorem Growing.atLevel {blocks : List Block} {last : Nat} {behind : List Entry}
    {lines : List HeldLine} {nested : List OpenBlock}
    (growing : Growing blocks last behind lines nested) :
    AtLevel blocks (innermost nested).index nested.length := by
  induction growing with
  | root found _ => exact .root found rfl
  | nested found _ around induction => exact .nested found rfl around.innermost_lt induction

theorem Reads.atLevel {history : List Placement} {layout : Layout} (read : Reads history layout) :
    ∀ placement ∈ history, AtLevel layout.blocks placement.holder placement.depth := by
  induction read with
  | start => simp
  | step read step induction =>
      intro placement member
      rcases List.mem_cons.mp member with rfl | member
      · exact (read.step step).growing.atLevel
      · exact (induction placement member).step step

end Runbook.Script
