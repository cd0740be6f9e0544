import Runbook.Proofs.Script.Continuation

/-! # Where logical lines start

Reading a script one source line after the other, a logical line starts on each source
line that counts, unless the last one before it that counts goes on. The number of a
logical line is the number of the source line that it starts on. All source lines have
numbers, also those that are blank, are comments or continue other lines.
-/

namespace Runbook.Script

open Text (isBlank)

/-! ## Source lines one by one -/

/-- What a source line says, together with the source lines that it goes on with. -/
def spelled : (line : List Char) → (behind : List (List Char)) → List Char
  | line, [] => withoutLineEnd line
  | line, next :: behind =>
      if isIgnored next then spelled line behind
      else
        match continued? line with
        | some start => start ++ spelled next behind
        | none => withoutLineEnd line

/-- Whether the next source line that counts continues another one, after a source line
and what was there before it. -/
def goesOnAfter (goesOn : Bool) (line : List Char) : Bool :=
  if isIgnored line then goesOn else (continued? line).isSome

/-- The logical lines that start on source lines, the first of which has the given number.
`goesOn` tells whether the first that counts continues a line before it. -/
def startingFrom : (number : Nat) → (goesOn : Bool) → List (List Char) → List LogicalLine
  | _, _, [] => []
  | number, goesOn, line :: behind =>
      let later := startingFrom (number + 1) (goesOnAfter goesOn line) behind
      if isIgnored line || goesOn then later else ⟨number, spelled line behind⟩ :: later

/-- A logical line starts on a source line that counts and continues no other. Its number
is one more than the number of source lines before it. -/
def StartsOn (source : List (List Char)) (line : LogicalLine) : Prop :=
  ∃ before first behind, source = before ++ first :: behind ∧ isIgnored first = false ∧
    before.foldl goesOnAfter false = false ∧ line = ⟨before.length + 1, spelled first behind⟩

/-! ## Joined lines -/

theorem stripRight_append_blank {blanks : List Char} (blank : ∀ c ∈ blanks, isBlank c = true)
    (line : List Char) : Text.stripRight (line ++ blanks) = Text.stripRight line := by
  have reversed : ∀ c ∈ blanks.reverse, isBlank c = true :=
    fun c member => blank c (List.mem_reverse.mp member)
  rw [Text.stripRight, Text.stripRight, Text.dropEndWhile_eq_rdropWhile,
    Text.dropEndWhile_eq_rdropWhile, List.rdropWhile, List.reverse_append,
    List.dropWhile_append_of_pos reversed, List.rdropWhile]

theorem stripRight_ne_nil {line : List Char} (counts : Counts line) :
    Text.stripRight line ≠ [] := by
  rcases counts with ⟨mark, found, _⟩
  intro empty
  have last := Text.getLast?_stripRight line
  rw [empty, List.getLast?_nil, eq_comm, List.find?_eq_none] at last
  exact last mark (List.mem_reverse.mpr (List.mem_of_find?_eq_some found)) (List.find?_some found)

theorem stripRight_append {line : List Char} (counts : Counts line) (said : List Char) :
    Text.stripRight (said ++ line) = said ++ Text.stripRight line := by
  have kept := stripRight_ne_nil counts
  rw [Text.stripRight, Text.dropEndWhile_eq_rdropWhile, List.rdropWhile] at kept ⊢
  rw [List.reverse_append, List.dropWhile_append, if_neg (by simpa using kept),
    List.reverse_append, List.reverse_reverse, Text.stripRight, Text.dropEndWhile_eq_rdropWhile,
    List.rdropWhile]

/-- Whether joined lines go on depends on the last of them. -/
theorem continued?_append {line : List Char} (counts : Counts line) (said : List Char) :
    continued? (said ++ line) = (continued? line).map (said ++ ·) := by
  have kept := stripRight_ne_nil counts
  simp only [continued?, stripRight_append counts, List.getLast?_append_of_ne_nil _ kept]
  split
  · rw [Option.map_some, List.dropLast_append_of_ne_nil kept]
  · rfl

theorem continued?_withoutLineEnd (line : List Char) :
    continued? (withoutLineEnd line) = continued? line := by
  rcases withoutLineEnd_append line with ⟨dropped, parts, blank⟩
  have same := stripRight_append_blank blank (withoutLineEnd line)
  rw [← parts] at same
  rw [continued?, continued?, same]

/-- What has been said of a line that is being read makes no difference to the lines that
start behind it. -/
theorem joinContinued_keptFrom (number : Nat) (said : List Char) {line : List Char}
    (counts : isIgnored line = false) (later : Nat) (behind : List (List Char)) :
    joinContinued ⟨number, said ++ withoutLineEnd line⟩ (keptFrom later behind) =
      ⟨number, said ++ spelled line behind⟩ ::
        startingFrom later (continued? line).isSome behind := by
  induction behind generalizing number said line later with
  | nil => rfl
  | cons next behind induction =>
      cases ignored : isIgnored next with
      | true =>
          simp [keptFrom, spelled, startingFrom, goesOnAfter, ignored, induction number said counts]
      | false =>
          have lineCounts := counts_withoutLineEnd ((isIgnored_eq_false_iff line).mp counts)
          rw [keptFrom, ignored, if_neg (by decide), joinContinued]
          dsimp only
          rw [continued?_append lineCounts, continued?_withoutLineEnd]
          cases goesOn : continued? line with
          | some start =>
              have joined := induction number (said ++ start) ignored (later + 1)
              rw [List.append_assoc, List.append_assoc] at joined
              simp [spelled, startingFrom, goesOnAfter, ignored, goesOn, joined]
          | none =>
              have started := induction later [] ignored (later + 1)
              rw [List.nil_append, List.nil_append] at started
              simp [spelled, startingFrom, goesOnAfter, ignored, goesOn, started]

/-- Lines are joined the way that source lines go on. -/
theorem joined_eq_startingFrom (number : Nat) (source : List (List Char)) :
    (match keptFrom number source with
      | [] => []
      | first :: rest => joinContinued first rest) = startingFrom number false source := by
  induction source generalizing number with
  | nil => rfl
  | cons line source induction =>
      cases ignored : isIgnored line with
      | true => simp [keptFrom, startingFrom, goesOnAfter, ignored, induction]
      | false =>
          have joined := joinContinued_keptFrom number [] ignored (number + 1) source
          rw [List.nil_append, List.nil_append] at joined
          simp [keptFrom, startingFrom, goesOnAfter, ignored, joined]

theorem logicalLines_eq_startingFrom (source : List (List Char)) :
    logicalLines source = startingFrom 1 false source :=
  joined_eq_startingFrom 1 source

/-! ## Numbers -/

theorem mem_startingFrom_iff (number : Nat) (goesOn : Bool) (source : List (List Char))
    (line : LogicalLine) :
    line ∈ startingFrom number goesOn source ↔
      ∃ before first behind, source = before ++ first :: behind ∧ isIgnored first = false ∧
        before.foldl goesOnAfter goesOn = false ∧
        line = ⟨number + before.length, spelled first behind⟩ := by
  induction source generalizing number goesOn with
  | nil => simp [startingFrom]
  | cons next source induction =>
      have later := induction (number + 1) (goesOnAfter goesOn next)
      have starts : line ∈ startingFrom number goesOn (next :: source) ↔
          (isIgnored next = false ∧ goesOn = false ∧ line = ⟨number, spelled next source⟩) ∨
            line ∈ startingFrom (number + 1) (goesOnAfter goesOn next) source := by
        rw [startingFrom]
        cases isIgnored next <;> cases goesOn <;> simp
      rw [starts, later]
      constructor
      · rintro (⟨counts, fresh, same⟩ | ⟨before, first, behind, rfl, counts, fresh, same⟩)
        · exact ⟨[], next, source, rfl, counts, fresh, same⟩
        · refine ⟨next :: before, first, behind, rfl, counts, fresh, ?_⟩
          rw [same, List.length_cons, Nat.add_assoc, Nat.add_comm 1]
      · rintro ⟨_ | ⟨head, before⟩, first, behind, shape, counts, fresh, same⟩
        · cases shape
          exact .inl ⟨counts, fresh, same⟩
        · cases shape
          refine .inr ⟨before, first, behind, rfl, counts, fresh, ?_⟩
          rw [same, List.length_cons, Nat.add_assoc, Nat.add_comm 1]

theorem mem_logicalLines_iff {source : List (List Char)} {line : LogicalLine} :
    line ∈ logicalLines source ↔ StartsOn source line := by
  simp only [logicalLines_eq_startingFrom, mem_startingFrom_iff, StartsOn, Nat.add_comm 1]

end Runbook.Script
