import Mathlib.Data.List.Forall2
import Runbook.Proofs.Script.Placing

/-! # Nesting by indentation

Indentation alone says which block a line of a script stands in. Two lines stand
in the same block when they are equally wide and no line between them is
narrower, and their block stands in the block of the nearest earlier line that is
narrower. The blocks that are open after some lines are therefore the ones that a
search backwards through these lines comes across, and this is what placing
another line preserves.
-/

namespace Runbook.Script

open Layout (innermost)

/-! ## Open blocks -/

/-- Open blocks from the innermost one outwards, each of them deeper than the one
around it. -/
inductive Layered : List OpenBlock → Prop
  | nil : Layered []
  | cons {block : OpenBlock} {outer : List OpenBlock}
      (deeper : (innermost outer).indentation < block.indentation) (rest : Layered outer) :
      Layered (block :: outer)

theorem Layered.dropWhile {nested : List OpenBlock} (layered : Layered nested)
    (closes : OpenBlock → Bool) : Layered (nested.dropWhile closes) := by
  induction layered with
  | nil => exact .nil
  | cons deeper rest induction =>
      rw [List.dropWhile_cons]
      split
      · exact induction
      · exact .cons deeper rest

/-- Closing some blocks first makes no difference when they are closed anyway. -/
theorem dropWhile_dropWhile {closes more : OpenBlock → Bool}
    (includes : ∀ block, closes block → more block) (nested : List OpenBlock) :
    (nested.dropWhile closes).dropWhile more = nested.dropWhile more := by
  induction nested with
  | nil => rfl
  | cons block outer induction =>
      by_cases closed : closes block
      · rw [List.dropWhile_cons_of_pos closed, List.dropWhile_cons_of_pos (includes block closed),
          induction]
      · rw [List.dropWhile_cons_of_neg closed]

/-- Blocks that are less deep than a line stay open. -/
theorem dropWhile_eq_self_of_lt {nested : List OpenBlock} {width : Nat}
    (within : (innermost nested).indentation < width) :
    nested.dropWhile (fun block => width ≤ block.indentation) = nested := by
  cases nested with
  | nil => rfl
  | cons block outer =>
      rw [innermost_cons] at within
      rw [List.dropWhile_cons_of_neg]
      simpa using within

namespace Step

variable {layout placed : Layout} {width : Nat} {text : String}

/-- A line stands in a block of its own width. -/
theorem indentation_eq (step : Step layout width text placed) :
    (innermost placed.nested).indentation = width := by
  cases step with
  | beside _ fits => exact fits.symm
  | below => rfl

theorem layered (step : Step layout width text placed) (before : Layered layout.nested) :
    Layered placed.nested := by
  cases step with
  | beside closed _ => exact closed ▸ before.dropWhile _
  | below deeper => exact .cons deeper before

/-- After a line its own block is open, and around it every block that is less deep. -/
theorem nested_eq (step : Step layout width text placed) (before : Layered layout.nested)
    (indented : 0 < width) :
    placed.nested = ⟨(innermost placed.nested).index, width⟩ ::
      layout.nested.dropWhile (fun block => width ≤ block.indentation) := by
  cases step with
  | @beside nested closed fits =>
      have layered := closed ▸ before.dropWhile _
      have same : nested.dropWhile (fun block => width ≤ block.indentation) =
          layout.nested.dropWhile fun block => width ≤ block.indentation := by
        rw [← closed]
        apply dropWhile_dropWhile
        intro block shallower
        simp only [decide_eq_true_eq] at shallower ⊢
        omega
      cases layered with
      | nil => simp only [innermost_nil] at fits; omega
      | @cons block outer deeper _ =>
          rcases block with ⟨index, indentation⟩
          simp only [innermost_cons] at fits deeper
          subst fits
          rw [List.dropWhile_cons_of_pos (by simp)] at same
          rw [innermost_cons, ← same, dropWhile_eq_self_of_lt deeper]
  | below deeper => rw [innermost_cons, dropWhile_eq_self_of_lt deeper]

theorem nested_eq_nil (step : Step layout 0 text placed) (before : Layered layout.nested) :
    placed.nested = [] := by
  have flush := step.indentation_eq
  have layered := step.layered before
  cases nested : placed.nested with
  | nil => rfl
  | cons block outer =>
      rw [nested] at flush layered
      cases layered with
      | cons deeper _ =>
          rw [innermost_cons] at flush
          omega

/-- A line goes on with the block that is left open at its width, or opens one. -/
theorem joins_or_opens (step : Step layout width text placed) :
    innermost placed.nested =
        innermost (layout.nested.dropWhile fun block => width < block.indentation) ∨
      (innermost placed.nested).index = layout.blocks.length ∧
        (innermost (layout.nested.dropWhile fun block => width < block.indentation)).indentation
          < width := by
  cases step with
  | beside closed _ => exact .inl (by rw [closed])
  | below deeper =>
      rw [dropWhile_eq_self (Nat.le_of_lt deeper)]
      exact .inr ⟨rfl, deeper⟩

end Step

/-! ## The lines of a script -/

/-- The block that a line has been placed in. -/
def Placement.block (placement : Placement) : OpenBlock := ⟨placement.holder, placement.width⟩

namespace Reads

variable {history later between earlier : List Placement} {layout : Layout}
  {first second : Placement}

theorem layered (read : Reads history layout) : Layered layout.nested := by
  induction read with
  | start => exact .nil
  | step _ step induction => exact step.layered induction

/-- Back at some width, the block of the nearest line that is not deeper is open. -/
theorem innermost_dropWhile (read : Reads history layout) (width : Nat) :
    innermost (layout.nested.dropWhile fun block => width < block.indentation) =
      ((history.find? (·.width ≤ width)).map Placement.block).getD ⟨0, 0⟩ := by
  induction read with
  | start => rfl
  | @step history layout placed own text read step induction =>
      by_cases within : own ≤ width
      · have open' := step.indentation_eq
        rw [dropWhile_eq_self (by omega), List.find?_cons_of_pos (by simpa using within)]
        simp only [Placement.block, Option.map_some, Option.getD_some, ← open']
      · rw [List.find?_cons_of_neg (by simpa using within), ← induction,
          step.nested_eq read.layered (by omega), List.dropWhile_cons_of_pos (by simp; omega),
          dropWhile_dropWhile]
        intro block deeper
        simp only [decide_eq_true_eq] at deeper ⊢
        omega

/-- The block of a line is as wide as the line. -/
theorem indentation_eq (read : Reads history layout) :
    ∀ placement ∈ history,
      (layout.blocks[placement.holder]?).map (·.indentation) = some placement.width := by
  induction read with
  | start => simp
  | @step history layout placed width text read step induction =>
      intro placement member
      rcases List.mem_cons.mp member with rfl | member
      · simp only [(read.step step).growing.indentation_eq, step.indentation_eq]
      · rcases Option.map_eq_some_iff.mp (induction placement member) with ⟨block, found, same⟩
        rcases step.getElem? found with ⟨entries, kept⟩
        rw [kept, Option.map_some, same]

theorem holder_lt (read : Reads history layout) {placement : Placement}
    (member : placement ∈ history) : placement.holder < layout.blocks.length := by
  rcases Option.map_eq_some_iff.mp (read.indentation_eq placement member) with ⟨block, found, _⟩
  exact (List.getElem?_eq_some_iff.mp found).1

/-- A line goes on with the block of the nearest line that is not wider, or opens a block
when that line is narrower. -/
theorem holder_of_nearest (read : Reads history layout) {placed : Layout} {width : Nat}
    {text : String} (step : Step layout width text placed) {nearest : Placement}
    (found : history.find? (·.width ≤ width) = some nearest) :
    (width = nearest.width ∧ (innermost placed.nested).index = nearest.holder) ∨
      (nearest.width < width ∧ (innermost placed.nested).index = layout.blocks.length) := by
  have left := read.innermost_dropWhile width
  rw [found, Option.map_some, Option.getD_some] at left
  have wide := step.indentation_eq
  rcases step.joins_or_opens with joins | ⟨opens, narrower⟩
  · rw [left] at joins
    rw [joins] at wide ⊢
    exact .inl ⟨wide.symm, rfl⟩
  · rw [left] at narrower
    exact .inr ⟨narrower, opens⟩

/-- The search from a line as wide as `first` either passes every line between the two or
stops at one of these, which has been compared with `first` before. -/
theorem innermost_eq_holder_iff (read : Reads history layout)
    (step : Step layout first.width text placed) (split : history = between ++ first :: earlier)
    (shares : ∀ above nearer below, between = above ++ nearer :: below →
      (nearer.holder = first.holder ↔
        nearer.width = first.width ∧ ∀ line ∈ below, first.width ≤ line.width)) :
    (innermost placed.nested).index = first.holder ↔
      ∀ line ∈ between, first.width ≤ line.width := by
  cases found : between.find? (·.width ≤ first.width) with
  | none =>
      have passed : ∀ line ∈ between, first.width ≤ line.width := by
        intro line member
        have wider := List.find?_eq_none.mp found line member
        simp only [decide_eq_true_eq] at wider
        omega
      have nearest : history.find? (·.width ≤ first.width) = some first := by
        rw [split, List.find?_append, found, Option.none_or, List.find?_cons_of_pos (by simp)]
      rcases read.holder_of_nearest step nearest with ⟨_, joins⟩ | ⟨narrower, _⟩
      · exact ⟨fun _ => passed, fun _ => joins⟩
      · omega
  | some nearer =>
      have nearest : history.find? (·.width ≤ first.width) = some nearer := by
        rw [split, List.find?_append, found, Option.some_or]
      rcases List.find?_eq_some_iff_append.mp found with ⟨_, above, below, rfl, wider⟩
      rcases read.holder_of_nearest step nearest with ⟨equal, joins⟩ | ⟨narrower, opens⟩
      · rw [joins, shares above nearer below rfl]
        constructor
        · intro ⟨_, after⟩ line member
          rcases List.mem_append.mp member with before | member
          · have passed := wider line before
            simp only [Bool.not_eq_true', decide_eq_false_iff_not] at passed
            omega
          · rcases List.mem_cons.mp member with rfl | member
            · omega
            · exact after line member
        · intro all
          exact ⟨equal.symm, fun line member => all line (by simp [member])⟩
      · have stands := read.holder_lt (show first ∈ history by simp [split])
        constructor
        · intro shared
          omega
        · intro all
          have wide := all nearer (by simp)
          omega

/-- Lines share a block when they are equally wide and no line between them is narrower. -/
theorem holder_eq_iff (read : Reads history layout)
    (split : history = later ++ second :: (between ++ first :: earlier)) :
    second.holder = first.holder ↔
      second.width = first.width ∧ ∀ line ∈ between, first.width ≤ line.width := by
  induction read generalizing later between second first earlier with
  | start => simp at split
  | @step history layout placed width text read step induction =>
      cases later with
      | cons placement later =>
          rw [List.cons_append, List.cons.injEq] at split
          exact induction split.2
      | nil =>
          rw [List.nil_append, List.cons.injEq] at split
          rcases split with ⟨rfl, split⟩
          simp only
          by_cases same : width = first.width
          · subst same
            have shares : ∀ above nearer below, between = above ++ nearer :: below →
                (nearer.holder = first.holder ↔
                  nearer.width = first.width ∧ ∀ line ∈ below, first.width ≤ line.width) := by
              intro above nearer below parts
              have apart : history = above ++ nearer :: (below ++ first :: earlier) := by
                simp [split, parts]
              exact induction apart
            rw [read.innermost_eq_holder_iff step split shares]
            simp
          · have own := (read.step step).indentation_eq _ List.mem_cons_self
            have stands := (read.step step).indentation_eq first (by simp [split])
            constructor
            · intro shared
              simp only at own
              rw [shared, stands] at own
              exact absurd (Option.some.inj own).symm same
            · intro ⟨equal, _⟩
              exact absurd equal same

/-- A line that is not indented stands in the root. -/
theorem holder_eq_zero (read : Reads history layout) :
    ∀ placement ∈ history, placement.width = 0 → placement.holder = 0 := by
  induction read with
  | start => simp
  | @step history layout placed width text read step induction =>
      intro placement member flush
      rcases List.mem_cons.mp member with rfl | member
      · simp only at flush
        subst flush
        simp only [step.nested_eq_nil read.layered, innermost_nil]
      · exact induction placement member flush

/-- An indented line stands in a block of the block of the nearest narrower line. -/
theorem parent_eq (read : Reads history layout) {line : Placement}
    (split : history = later ++ line :: earlier) (indented : 0 < line.width) :
    (layout.blocks[line.holder]?).bind (·.parent) =
      some (((earlier.find? (·.width < line.width)).map (·.holder)).getD 0) := by
  induction read generalizing later with
  | start => simp at split
  | @step history layout placed width text read step induction =>
      cases later with
      | cons placement later =>
          rw [List.cons_append, List.cons.injEq] at split
          have parent := induction split.2
          rcases Option.bind_eq_some_iff.mp parent with ⟨block, found, inside⟩
          rcases step.getElem? found with ⟨entries, kept⟩
          rw [kept, Option.bind_some, inside]
      | nil =>
          rw [List.nil_append, List.cons.injEq] at split
          rcases split with ⟨rfl, rfl⟩
          simp only at indented ⊢
          have growing := (read.step step).growing
          rw [step.nested_eq read.layered indented] at growing
          have positive : 0 < width := by omega
          rcases Nat.exists_eq_add_one.mpr positive with ⟨before, rfl⟩
          have nearest := read.innermost_dropWhile before
          have parent := growing.parent_eq
          simp only [Nat.succ_le_iff, nearest] at parent
          simp only [parent, Nat.lt_succ_iff, Option.some.injEq]
          cases history.find? (·.width ≤ before) <;> rfl

end Reads

/-! ## Following the indentation -/

/-- An outline has the lines of a script, and their nesting is the one that their
indentation describes. -/
structure Outline.Follows (outline : Outline) (script : List LogicalLine) : Prop where
  texts : outline.lines.map (·.text) = script.map fun line => String.ofList line.content
  sharing {before between after first second}
    (split : outline.lines.zip script = before ++ first :: (between ++ second :: after)) :
    first.1.holder = second.1.holder ↔
      first.2.width = second.2.width ∧ ∀ line ∈ between, first.2.width ≤ line.2.width
  inside {before between after outer line}
    (split : outline.lines.zip script = before ++ outer :: (between ++ line :: after))
    (narrower : outer.2.width < line.2.width)
    (nearest : ∀ other ∈ between, line.2.width ≤ other.2.width) :
    outline.parent? line.1.holder = some outer.1.holder
  outermost {before after line}
    (split : outline.lines.zip script = before ++ line :: after)
    (indented : 0 < line.2.width)
    (narrowest : ∀ other ∈ before, line.2.width ≤ other.2.width) :
    outline.parent? line.1.holder = some 0
  flush {line} (member : line ∈ outline.lines.zip script) (flush : line.2.width = 0) :
    line.1.holder = 0

/-- A line of an outline together with the line of the script that it comes from, and
where reading the script has placed it. -/
def PlacedAt (line : HeldLine × LogicalLine) (placement : Placement) : Prop :=
  line.1 = placement.held ∧ line.2.width = placement.width

theorem forall₂_placedAt {script : List LogicalLine} {placements : List Placement}
    (same : List.Forall₂ LogicalLine.Matches script placements) :
    List.Forall₂ PlacedAt ((placements.map Placement.held).zip script) placements := by
  induction same with
  | nil => exact .nil
  | cons first _ induction => exact .cons ⟨rfl, first.1⟩ induction

theorem exists_split_of_forall₂ {before after : List (HeldLine × LogicalLine)}
    {line : HeldLine × LogicalLine} {placements : List Placement}
    (placed : List.Forall₂ PlacedAt (before ++ line :: after) placements) :
    ∃ earlier placement later, placements = earlier ++ placement :: later ∧
      List.Forall₂ PlacedAt before earlier ∧ PlacedAt line placement ∧
      List.Forall₂ PlacedAt after later := by
  induction before generalizing placements with
  | nil =>
      cases placed with
      | cons first rest => exact ⟨[], _, _, rfl, .nil, first, rest⟩
  | cons _ before induction =>
      cases placed with
      | cons first rest =>
          rcases induction rest with ⟨earlier, placement, later, rfl, left, middle, right⟩
          exact ⟨_ :: earlier, placement, later, rfl, .cons first left, middle, right⟩

theorem forall_le_width_iff {lines : List (HeldLine × LogicalLine)}
    {placements : List Placement} (placed : List.Forall₂ PlacedAt lines placements)
    (width : Nat) :
    (∀ line ∈ lines, width ≤ line.2.width) ↔ ∀ placement ∈ placements, width ≤ placement.width := by
  induction placed with
  | nil => simp
  | cons first _ induction => simp only [List.forall_mem_cons, first.2, induction]

theorem exists_two_of_forall₂ {before between after : List (HeldLine × LogicalLine)}
    {first second : HeldLine × LogicalLine} {placements : List Placement}
    (placed : List.Forall₂ PlacedAt (before ++ first :: (between ++ second :: after)) placements) :
    ∃ earlier one middle two later, placements = earlier ++ one :: (middle ++ two :: later) ∧
      PlacedAt first one ∧ List.Forall₂ PlacedAt between middle ∧ PlacedAt second two := by
  rcases exists_split_of_forall₂ placed with ⟨earlier, one, _, rfl, _, atOne, rest⟩
  rcases exists_split_of_forall₂ rest with ⟨middle, two, later, rfl, passed, atTwo, _⟩
  exact ⟨earlier, one, middle, two, later, rfl, atOne, passed, atTwo⟩

namespace Reads

variable {layout : Layout} {placements : List Placement}
  {before between after : List (HeldLine × LogicalLine)}
  {first second line : HeldLine × LogicalLine}

theorem shares_iff (read : Reads placements.reverse layout)
    (placed : List.Forall₂ PlacedAt (before ++ first :: (between ++ second :: after)) placements) :
    first.1.holder = second.1.holder ↔
      first.2.width = second.2.width ∧ ∀ line ∈ between, first.2.width ≤ line.2.width := by
  rcases exists_two_of_forall₂ placed with ⟨earlier, one, middle, two, later, rfl,
    ⟨oneHeld, oneWide⟩, passed, ⟨twoHeld, twoWide⟩⟩
  have apart : (earlier ++ one :: (middle ++ two :: later)).reverse =
      later.reverse ++ two :: (middle.reverse ++ one :: earlier.reverse) := by simp
  have shared := read.holder_eq_iff apart
  rw [oneHeld, twoHeld, oneWide, twoWide, forall_le_width_iff passed]
  simpa [Placement.held, eq_comm] using shared

theorem parent_eq_holder (read : Reads placements.reverse layout)
    (placed : List.Forall₂ PlacedAt (before ++ first :: (between ++ second :: after)) placements)
    (narrower : first.2.width < second.2.width)
    (nearest : ∀ other ∈ between, second.2.width ≤ other.2.width) :
    layout.outline.parent? second.1.holder = some first.1.holder := by
  rcases exists_two_of_forall₂ placed with ⟨earlier, one, middle, two, later, rfl,
    ⟨oneHeld, oneWide⟩, passed, ⟨twoHeld, twoWide⟩⟩
  rw [forall_le_width_iff passed, twoWide] at nearest
  have apart : (earlier ++ one :: (middle ++ two :: later)).reverse =
      later.reverse ++ two :: (earlier ++ one :: middle).reverse := by simp
  have parent := read.parent_eq apart (by omega)
  have found : (earlier ++ one :: middle).reverse.find? (·.width < two.width) = some one := by
    rw [List.find?_eq_some_iff_append]
    exact ⟨by simp; omega, middle.reverse, earlier.reverse, by simp, by simpa using nearest⟩
  rw [found] at parent
  rw [oneHeld, twoHeld]
  exact parent

theorem parent_eq_root (read : Reads placements.reverse layout)
    (placed : List.Forall₂ PlacedAt (before ++ line :: after) placements)
    (indented : 0 < line.2.width)
    (narrowest : ∀ other ∈ before, line.2.width ≤ other.2.width) :
    layout.outline.parent? line.1.holder = some 0 := by
  rcases exists_split_of_forall₂ placed with ⟨earlier, one, later, rfl, passed, ⟨held, wide⟩, _⟩
  rw [forall_le_width_iff passed, wide] at narrowest
  have apart : (earlier ++ one :: later).reverse =
      later.reverse ++ one :: earlier.reverse := by simp
  have parent := read.parent_eq apart (by omega)
  have missed : earlier.reverse.find? (·.width < one.width) = none := by
    simpa using narrowest
  rw [missed] at parent
  rw [held]
  exact parent

theorem flush_eq_root (read : Reads placements.reverse layout)
    (placed : List.Forall₂ PlacedAt (before ++ line :: after) placements)
    (flush : line.2.width = 0) : line.1.holder = 0 := by
  rcases exists_split_of_forall₂ placed with ⟨earlier, one, later, rfl, _, ⟨held, wide⟩, _⟩
  rw [held]
  exact read.holder_eq_zero one (by simp) (by omega)

end Reads

theorem follows_of_ofLines {lines : List (List Char)} {outline : Outline}
    (read : ofLines lines = .ok outline) : outline.Follows (logicalLines lines) := by
  rcases reads_of_ofLines read with ⟨layout, placements, rfl, reads, same⟩
  have walked : layout.outline.lines = placements.map Placement.held := by
    rw [reads.lines_eq, List.reverse_reverse]
  have placed := forall₂_placedAt same
  rw [← walked] at placed
  constructor
  case texts =>
    rw [walked, List.map_map]
    exact texts_eq_of_matches same
  case sharing =>
    intro before between after first second split
    exact reads.shares_iff (split ▸ placed)
  case inside =>
    intro before between after outer line split
    exact reads.parent_eq_holder (split ▸ placed)
  case outermost =>
    intro before after line split
    exact reads.parent_eq_root (split ▸ placed)
  case flush =>
    intro line member
    rcases List.append_of_mem member with ⟨before, after, split⟩
    exact reads.flush_eq_root (split ▸ placed)

/-- A script the last line of which closes two blocks at once. -/
def returningLines : List (List Char) :=
  [['a'], [' ', 'b'], [' ', ' ', ' ', 'c'], ['d']]

def returningOutline : Outline where
  blocks := [⟨none, 0, [.line "a", .block 1, .line "d"]⟩,
    ⟨some 0, 1, [.line "b", .block 2]⟩, ⟨some 1, 3, [.line "c"]⟩]

theorem returningOutline_follows :
    ofLines returningLines = .ok returningOutline ∧
      returningOutline.Follows (logicalLines returningLines) :=
  ⟨rfl, follows_of_ofLines rfl⟩

end Runbook.Script
