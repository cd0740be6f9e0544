import Mathlib.Data.List.SplitBy
import Runbook.Proofs.Script.Numbering

/-! # Groups of lines

Reading a script with all of its lines at hand, the lines that count fall into groups. A group
goes on as long as its lines end in a backslash, and there is only one way to cut the lines into
such groups. Each group is a logical line, whose text is put together from what its lines say.
-/

namespace Runbook.Script

/-! ## The lines that count -/

/-- The source lines that are neither blank nor comments, with their numbers and without their
line ends. -/
def kept (source : List (List Char)) : List LogicalLine :=
  let counted := (source.zipIdx 1).filter fun (line, _) =>
    decide (Text.strip line ≠ [] ∧ (Text.strip line).head? ≠ some '#')
  counted.map fun (line, number) => ⟨number, line.rdropWhile fun c => c == '\r' || c == '\n'⟩

theorem not_isIgnored_eq_decide (line : List Char) :
    (!isIgnored line) = decide (Text.strip line ≠ [] ∧ (Text.strip line).head? ≠ some '#') := by
  rw [Bool.eq_iff_iff]
  simp [isIgnored, isComment]

theorem keptFrom_eq (number : Nat) (source : List (List Char)) :
    keptFrom number source =
      ((source.zipIdx number).filter fun (line, _) => !isIgnored line).map fun (line, number) =>
        ⟨number, line.rdropWhile fun c => c == '\r' || c == '\n'⟩ := by
  induction source generalizing number with
  | nil => rfl
  | cons line source induction =>
      rw [keptFrom, List.zipIdx_cons, induction]
      cases ignored : isIgnored line with
      | true => simp [ignored]
      | false => simp [ignored, withoutLineEnd, Text.dropEndWhile_eq_rdropWhile]

theorem keptFrom_one (source : List (List Char)) : keptFrom 1 source = kept source := by
  simp only [keptFrom_eq, kept, not_isIgnored_eq_decide]

/-! ## Cutting lines into groups -/

/-- A line ends in a backslash, not counting the blanks behind it. -/
def GoesOn (line : LogicalLine) : Prop := (Text.stripRight line.text).getLast? = some '\\'

instance : DecidablePred GoesOn := fun line =>
  inferInstanceAs (Decidable ((Text.stripRight line.text).getLast? = some '\\'))

/-- What a line that goes on says, which does not include the backslash. -/
def opening (line : LogicalLine) : List Char := (Text.stripRight line.text).dropLast

/-- Lines are cut into groups behind each line that does not go on. -/
structure IsCut (lines : List LogicalLine) (groups : List (List LogicalLine)) : Prop where
  whole : groups.flatten = lines
  nonempty : [] ∉ groups
  goOn : ∀ group ∈ groups, ∀ line ∈ group.dropLast, GoesOn line
  ends : ∀ group ∈ groups.dropLast, ∀ line, group.getLast? = some line → ¬GoesOn line

/-- A group is a logical line. It starts where its first line does, and its last line is left as
it is. -/
def Joins (group : List LogicalLine) (line : LogicalLine) : Prop :=
  ∃ first last, group.head? = some first ∧ group.getLast? = some last ∧
    line = ⟨first.number, group.dropLast.flatMap opening ++ last.text⟩

theorem isChain_left_iff {α : Type} {holds : α → Prop} {values : List α} :
    values.IsChain (fun value _ => holds value) ↔ ∀ value ∈ values.dropLast, holds value := by
  induction values with
  | nil => simp
  | cons value values induction =>
      cases values with
      | nil => simp
      | cons next values => simp [induction]

theorem isChain_ends_iff {groups : List (List LogicalLine)} (nonempty : [] ∉ groups) :
    groups.IsChain (fun group next => ∃ (some : group ≠ []) (_ : next ≠ []),
        decide (GoesOn (group.getLast some)) = false) ↔
      ∀ group ∈ groups.dropLast, ∀ line, group.getLast? = some line → ¬GoesOn line := by
  rw [← isChain_left_iff]
  induction groups with
  | nil => simp
  | cons group groups induction =>
      cases groups with
      | nil => simp
      | cons next groups =>
          simp only [List.mem_cons, not_or] at nonempty induction
          rw [List.isChain_cons_cons, List.isChain_cons_cons, induction nonempty.2]
          refine and_congr_left fun _ => ?_
          have some : group ≠ [] := fun empty => nonempty.1 empty.symm
          have other : next ≠ [] := fun empty => nonempty.2.1 empty.symm
          simp [some, other, List.getLast?_eq_some_getLast some]

/-- There is exactly one way to cut lines into groups. -/
theorem isCut_iff {lines : List LogicalLine} {groups : List (List LogicalLine)} :
    IsCut lines groups ↔ lines.splitBy (fun line _ => decide (GoesOn line)) = groups := by
  rw [List.splitBy_eq_iff]
  simp only [decide_eq_true_eq, isChain_left_iff]
  constructor
  · rintro ⟨whole, nonempty, goOn, ends⟩
    exact ⟨whole.symm, nonempty, goOn, (isChain_ends_iff nonempty).mpr ends⟩
  · rintro ⟨whole, nonempty, goOn, ends⟩
    exact ⟨whole.symm, nonempty, goOn, (isChain_ends_iff nonempty).mp ends⟩

theorem IsCut.tail {lines group : List LogicalLine} {groups : List (List LogicalLine)}
    (cut : IsCut lines (group :: groups)) : IsCut groups.flatten groups where
  whole := rfl
  nonempty := fun member => cut.nonempty (List.mem_cons_of_mem _ member)
  goOn := fun other member => cut.goOn other (List.mem_cons_of_mem _ member)
  ends := by
    intro other member
    refine cut.ends other ?_
    cases groups with
    | nil => cases member
    | cons next groups => exact List.mem_cons_of_mem _ member

/-! ## Joining groups -/

theorem continued?_of_goesOn {line : LogicalLine} (goesOn : GoesOn line) :
    continued? line.text = some (opening line) := by
  rw [GoesOn] at goesOn
  simp [continued?, goesOn, opening]

theorem continued?_eq_none_iff_not_goesOn {line : LogicalLine} :
    continued? line.text = none ↔ ¬GoesOn line := by
  simp [continued?, GoesOn]

/-- Lines that count, joined where they go on. -/
def joinAll : List LogicalLine → List LogicalLine
  | [] => []
  | first :: rest => joinContinued first rest

theorem logicalLines_eq_joinAll (source : List (List Char)) :
    logicalLines source = joinAll (kept source) := by
  rw [logicalLines, keptFrom_one]
  cases kept source <;> rfl

/-- A group is joined before the lines behind it are looked at. What has been said before stays in
front of it. -/
theorem joinContinued_group (number : Nat) (said : List Char) {first : LogicalLine}
    {rest behind : List LogicalLine} (counts : ∀ line ∈ first :: rest, Counts line.text)
    (goOn : ∀ line ∈ (first :: rest).dropLast, GoesOn line)
    (ends : behind ≠ [] → ∀ line, (first :: rest).getLast? = some line → ¬GoesOn line) :
    joinContinued ⟨number, said ++ first.text⟩ (rest ++ behind) =
      ⟨number, said ++ ((first :: rest).dropLast.flatMap opening ++
        ((first :: rest).getLast (List.cons_ne_nil first rest)).text)⟩ :: joinAll behind := by
  induction rest generalizing said first with
  | nil =>
      cases behind with
      | nil => rfl
      | cons next behind =>
          have stops := continued?_eq_none_iff_not_goesOn.mpr
            (ends (List.cons_ne_nil next behind) first rfl)
          have joined : continued? (said ++ first.text) = none := by
            rw [continued?_append (counts first List.mem_cons_self), stops, Option.map_none]
          rw [List.nil_append, joinContinued, joined]
          rfl
  | cons next rest induction =>
      rw [List.dropLast_cons_cons] at goOn
      have goesOn := continued?_of_goesOn (goOn first List.mem_cons_self)
      have joined : continued? (said ++ first.text) = some (said ++ opening first) := by
        rw [continued?_append (counts first List.mem_cons_self), goesOn, Option.map_some]
      have later := induction (said ++ opening first)
        (fun line member => counts line (List.mem_cons_of_mem _ member))
        (fun line member => goOn line (List.mem_cons_of_mem _ member))
        (fun more line last => ends more line (by rwa [List.getLast?_cons_cons]))
      rw [List.append_assoc, List.append_assoc] at later
      rw [List.cons_append, joinContinued, joined]
      simp only [List.dropLast_cons_cons, List.flatMap_cons, List.append_assoc,
        List.getLast_cons_cons]
      exact later

/-- Each group is one logical line. -/
theorem IsCut.joins {lines : List LogicalLine} {groups : List (List LogicalLine)}
    (cut : IsCut lines groups) (counts : ∀ line ∈ lines, Counts line.text) :
    groups.Forall₂ Joins (joinAll lines) := by
  induction groups generalizing lines with
  | nil =>
      rw [← cut.whole]
      exact .nil
  | cons group groups induction =>
      rw [← cut.whole, List.flatten_cons] at counts ⊢
      rcases List.exists_cons_of_ne_nil (fun empty : group = [] => cut.nonempty (by simp [empty]))
        with ⟨first, rest, rfl⟩
      have later := induction cut.tail
        fun line member => counts line (List.mem_append_right _ member)
      have ends : groups.flatten ≠ [] →
          ∀ line, (first :: rest).getLast? = some line → ¬GoesOn line := by
        intro more
        refine cut.ends (first :: rest) ?_
        cases groups with
        | nil => exact absurd rfl more
        | cons next groups => exact List.mem_cons_self
      have joined : joinAll (first :: rest ++ groups.flatten) = _ :=
        joinContinued_group first.number []
          (fun line member => counts line (List.mem_append_left _ member))
          (cut.goOn _ List.mem_cons_self) ends
      rw [joined]
      exact .cons ⟨first, _, rfl, List.getLast?_eq_some_getLast _, rfl⟩ later

theorem counts_of_mem_kept {source : List (List Char)} {line : LogicalLine}
    (member : line ∈ kept source) : Counts line.text :=
  counts_of_mem_keptFrom (keptFrom_one source ▸ member)

/-! ## Reading logical lines again -/

theorem withoutLineEnd_append_of_bare {text : List Char} (counts : Counts text)
    (bare : withoutLineEnd text = text) (said : List Char) :
    withoutLineEnd (said ++ text) = said ++ text := by
  have nonempty : text ≠ [] := by
    rintro rfl
    rcases counts with ⟨mark, found, -⟩
    cases found
  rw [withoutLineEnd, Text.dropEndWhile_eq_rdropWhile, List.rdropWhile_eq_self_iff] at bare ⊢
  intro _
  rw [List.getLast_append_of_ne_nil _ nonempty]
  exact bare nonempty

theorem withoutLineEnd_of_mem_kept {source : List (List Char)} {line : LogicalLine}
    (member : line ∈ kept source) : withoutLineEnd line.text = line.text := by
  rcases List.mem_map.mp member with ⟨_, -, rfl⟩
  rw [withoutLineEnd, Text.dropEndWhile_eq_rdropWhile]
  exact List.rdropWhile_idempotent _ _

theorem withoutLineEnd_of_mem_logicalLines {source : List (List Char)} {line : LogicalLine}
    (member : line ∈ logicalLines source) : withoutLineEnd line.text = line.text := by
  have bare : Counts line.text ∧ withoutLineEnd line.text = line.text := by
    refine forall_logicalLines (P := fun text => Counts text ∧ withoutLineEnd text = text)
      ?_ ?_ line member
    · intro text start next first goesOn other
      exact ⟨first.1.join goesOn other.1, withoutLineEnd_append_of_bare other.1 other.2 start⟩
    · intro line member
      rw [keptFrom_one] at member
      exact ⟨counts_of_mem_kept member, withoutLineEnd_of_mem_kept member⟩
  exact bare.2

/-! ## Numbers -/

theorem pairwise_number_startingFrom (number : Nat) (goesOn : Bool) (source : List (List Char)) :
    (startingFrom number goesOn source).Pairwise fun line later => line.number < later.number := by
  induction source generalizing number goesOn with
  | nil => exact .nil
  | cons line source induction =>
      have later := induction (number + 1) (goesOnAfter goesOn line)
      rw [startingFrom]
      split
      · exact later
      · refine .cons (fun other member => ?_) later
        rcases (mem_startingFrom_iff ..).mp member with ⟨before, -, -, -, -, -, rfl⟩
        exact Nat.lt_of_lt_of_le (Nat.lt_succ_self number) (Nat.le_add_right ..)

/-- Logical lines are the groups into which the lines that count can be cut, and there is one way
to do that. So they are in order, none of them is blank or a comment, and only the last one can end
in a backslash. Read again, they stay as they are. -/
theorem logicalLines_are_groups (source : List (List Char)) :
    (∃! groups, IsCut (kept source) groups) ∧
      (∀ groups, IsCut (kept source) groups → groups.Forall₂ Joins (logicalLines source)) ∧
        ((logicalLines source).Pairwise fun line later => line.number < later.number) ∧
          (∀ line ∈ logicalLines source,
            Text.strip line.text ≠ [] ∧ (Text.strip line.text).head? ≠ some '#') ∧
            (∀ line ∈ (logicalLines source).dropLast, ¬GoesOn line) ∧
              (logicalLines ((logicalLines source).map LogicalLine.text)).map LogicalLine.text =
                (logicalLines source).map LogicalLine.text := by
  have counts : ∀ line ∈ logicalLines source, Counts line.text :=
    fun line => counts_of_mem_logicalLines
  refine ⟨⟨_, isCut_iff.mpr rfl, fun other cut => (isCut_iff.mp cut).symm⟩, ?_, ?_, ?_, ?_, ?_⟩
  · intro groups cut
    rw [logicalLines_eq_joinAll]
    exact cut.joins fun line => counts_of_mem_kept
  · rw [logicalLines_eq_startingFrom]
    exact pairwise_number_startingFrom ..
  · intro line member
    have kept := (isIgnored_eq_false_iff line.text).mpr (counts line member)
    simpa [isIgnored, isComment] using kept
  · exact fun line member =>
      continued?_eq_none_iff_not_goesOn.mp (continued?_of_mem_logicalLines member)
  · apply logicalLines_map_text
    · intro text member
      rcases List.mem_map.mp member with ⟨line, inside, rfl⟩
      exact counts line inside
    · intro text member
      rcases List.mem_map.mp member with ⟨line, inside, rfl⟩
      exact withoutLineEnd_of_mem_logicalLines inside
    · intro text member
      rw [← List.map_dropLast] at member
      rcases List.mem_map.mp member with ⟨line, inside, rfl⟩
      exact continued?_of_mem_logicalLines inside

end Runbook.Script
