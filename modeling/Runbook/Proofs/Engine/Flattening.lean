import Runbook.Proofs.Engine.Following

/-! # Flat runs

The iterations of a loop can be laid out one after the other: before each copy of the
block stands a step that binds the loop's variable. These steps are run like the
instructions of one block, so that the engine looks across the seams between the copies
when it decides which line takes a block and which block is stray. Nothing comes of
that, because the binding in between is no block, and no block follows it unless one
stands at the beginning of the block that is copied.
-/

namespace Runbook.Engine

open Script (Instruction)

/-- A step of a flat run: an instruction, or a variable that is bound to a text as it
is. -/
inductive Step
  | bind (name text : String)
  | instruction (instruction : Instruction)

def blockBelow : List Step → Option (List Instruction)
  | .instruction (.block body) :: _ => some body
  | _ => none

/-- Run steps in turn until one fails, just as the instructions of a block. A binding
does not fail, and it is no command that could stand before a block. -/
def runSteps (run : Runner) (fuel : Nat) (surroundings : Surroundings) (verbose : Bool) :
    (previous : Option String) → List Step → Run Bool
  | _, [] => return true
  | _, .bind name text :: rest => unlessStopped do
      Run.setVariable name (.scalar text)
      runSteps run fuel surroundings verbose none rest
  | previous, .instruction (.block _) :: _ =>
      unlessStopped (fail surroundings (strayBlock previous))
  | _, .instruction (.line text) :: rest => unlessStopped do
      let result ← runLine run fuel surroundings verbose text (blockBelow rest)
      if !result.succeeded then return false
      else if result.tookBlock then
        match rest with
        | [] => return true
        | _ :: rest => runSteps run fuel surroundings verbose none rest
      else
        let command := String.ofList (Text.firstWord text.toList)
        runSteps run fuel surroundings verbose (some command) rest

/-- The iterations of a loop, one after the other. -/
def unrolled (name : String) (body : List Instruction) (values : List String) : List Step :=
  values.flatMap fun value => .bind name value :: body.map .instruction

section Steps

variable (run : Runner) (fuel : Nat) (surroundings : Surroundings) (verbose : Bool)

theorem runSteps_line (previous : Option String) (text : String) (rest : List Step) :
    runSteps run fuel surroundings verbose previous (.instruction (.line text) :: rest) =
      unlessStopped (runLine run fuel surroundings verbose text (blockBelow rest) >>=
        goOn (runSteps run fuel surroundings verbose) text rest) := by
  cases rest with
  | nil =>
      rw [runSteps]
      congr
  | cons _ rest =>
      rw [runSteps]
      rfl

theorem blockBelow_instructions (instructions : List Instruction) :
    blockBelow (instructions.map .instruction) = blockAt instructions := by
  rcases instructions with _ | ⟨_ | _, rest⟩ <;> rfl

/-- Steps that bind nothing are run as the instructions that they are. -/
theorem runSteps_instructions (previous : Option String) (instructions : List Instruction) :
    runSteps run fuel surroundings verbose previous (instructions.map .instruction) =
      runItems run fuel surroundings verbose previous instructions := by
  induction previous, instructions using runItems.induct with
  | case1 => rw [List.map_nil, runSteps, runItems]
  | case2 => rw [List.map_cons, runSteps, runItems]
  | case3 previous text rest afterBlock afterLine =>
      rw [List.map_cons, runSteps_line, runItems_line, blockBelow_instructions]
      refine congrArg unlessStopped (bind_congr fun result => ?_)
      unfold goOn
      split
      · rfl
      · split
        · cases rest with
          | nil => rw [List.map_nil, List.tail_nil, List.tail_nil, runSteps, runItems]
          | cons _ rest => exact afterBlock
        · exact afterLine

end Steps

/-! ## Going on -/

/-- A line without a block below it takes none. -/
theorem returns_runLine (run : Runner) (fuel : Nat) (surroundings : Surroundings)
    (verbose : Bool) (line : String) :
    Returns (fun result => result.tookBlock = false)
      (runLine run fuel surroundings verbose line none) := by
  unfold runLine
  refine .after fun _ => .after fun _ => .after fun state => ?_
  split
  · exact .throw _
  · exact .after fun _ => .pure rfl
  · refine .after fun _ => ?_
    unfold runExpanded
    split
    · exact .after fun _ => .pure rfl
    · refine .after fun _ => .after fun resolution => ?_
      cases resolution with
      | refused error => exact .after fun _ => .pure rfl
      | help command => exact .after fun _ => .pure rfl
      | ready setup =>
          refine .after fun _ => .pure ?_
          dsimp only
          split <;> rfl

/-- Unless a stop has been asked for, two parts come to the same. -/
def Coincide {α : Type} (part other : Run α) : Prop :=
  ∀ ⦃state⦄, state.isStopped = false → part.outcome state = other.outcome state

namespace Coincide

variable {α β : Type} {part other last : Run α} {next next' : α → Run β}

theorem of_eq (same : part = other) : Coincide part other :=
  fun state _ => congrArg (Run.outcome · state) same

theorem symm (coincide : Coincide part other) : Coincide other part :=
  fun _ goesOn => (coincide goesOn).symm

theorem trans (first : Coincide part other) (second : Coincide other last) :
    Coincide part last :=
  fun _ goesOn => (first goesOn).trans (second goesOn)

theorem follows (coincide : Coincide part other) (follows : Follows other last) :
    Follows part last := by
  intro left right alike result final ended
  rw [coincide alike.goesOn] at ended
  exact follows alike ended

theorem followed (coincide : Coincide part other) (follows : Follows last part) :
    Follows last other := by
  intro left right alike result final ended
  rw [← coincide alike.goesOnToo]
  exact follows alike ended

theorem bind_first (coincide : Coincide part other) (next : α → Run β) :
    Coincide (part >>= next) (other >>= next) := by
  intro state goesOn
  rw [Run.outcome_bind, Run.outcome_bind, coincide goesOn]

/-- After a part that leaves the stop flags alone, no stop has been asked for either. -/
theorem bind_of_returns {post : α → Prop} (steady : Follows part part)
    (returns : Returns post part)
    (rest : ∀ value, post value → Coincide (next value) (next' value)) :
    Coincide (part >>= next) (part >>= next') := by
  intro state goesOn
  rw [Run.outcome_bind, Run.outcome_bind]
  have flags := @steady state state ⟨rfl, goesOn, goesOn⟩
  have returned := @returns state
  generalize part.outcome state = outcome at flags returned ⊢
  rcases outcome with ⟨_ | fault | value, middle⟩
  · rfl
  · rfl
  · rcases flags rfl with ⟨_, _, _, stops, _⟩
    exact rest value (returned rfl) ((State.isStopped_congr stops).trans goesOn)

theorem bind (steady : Follows part part) (rest : ∀ value, Coincide (next value) (next' value)) :
    Coincide (part >>= next) (part >>= next') :=
  bind_of_returns steady .anything fun value _ => rest value

theorem unlessStopped (part : Run Bool) : Coincide (Engine.unlessStopped part) part := by
  intro state goesOn
  change (if state.isStopped then _ else part : Run Bool).outcome state = part.outcome state
  rw [goesOn]
  rfl

end Coincide

/-- Run a part, and then another one if it succeeds. -/
def andThen (part rest : Run Bool) : Run Bool := do
  if ← part then rest else return false

theorem Coincide.andThen_unlessStopped {part other rest : Run Bool}
    (coincide : Coincide part (andThen other rest)) :
    Coincide (Engine.unlessStopped part) (andThen (Engine.unlessStopped other) rest) :=
  (Coincide.unlessStopped part).trans
    (coincide.trans ((Coincide.unlessStopped other).symm.bind_first _))

/-! ## Seams -/

/-- Steps that do not look back at what stood before them. -/
def StartAfresh : List Step → Prop
  | .instruction _ :: _ => False
  | .bind _ _ :: _ | [] => True

theorem startAfresh_unrolled (name : String) (body : List Instruction) (values : List String) :
    StartAfresh (unrolled name body values) := by
  cases values <;> trivial

section Seams

variable {run : Runner} {fuel : Nat} {surroundings : Surroundings} {verbose : Bool}
  {rest : List Step}

theorem runSteps_startAfresh (afresh : StartAfresh rest) (previous : Option String) :
    runSteps run fuel surroundings verbose previous rest =
      runSteps run fuel surroundings verbose none rest := by
  rcases rest with _ | ⟨_ | _, rest⟩
  · rw [runSteps, runSteps]
  · rw [runSteps, runSteps]
  · contradiction

theorem blockBelow_append (afresh : StartAfresh rest) (instructions : List Instruction) :
    blockBelow (instructions.map .instruction ++ rest) = blockAt instructions := by
  rcases instructions with _ | ⟨_ | _, instructions⟩
  · rcases rest with _ | ⟨_ | _, rest⟩
    · rfl
    · rfl
    · contradiction
  · rfl
  · rfl

variable
  (steady : ∀ surroundings : Surroundings, surroundings.Unwatched → ∀ verbose instructions,
    Follows (run surroundings verbose instructions) (run surroundings verbose instructions))
  (unwatched : surroundings.Unwatched)
include steady unwatched

/-- Nothing comes of looking across a seam. -/
theorem runSteps_append (afresh : StartAfresh rest) (previous : Option String)
    (instructions : List Instruction) :
    Coincide
      (runSteps run fuel surroundings verbose previous (instructions.map .instruction ++ rest))
      (andThen (runItems run fuel surroundings verbose previous instructions)
        (runSteps run fuel surroundings verbose none rest)) := by
  induction previous, instructions using runItems.induct with
  | case1 previous =>
      rw [List.map_nil, List.nil_append, runItems, runSteps_startAfresh afresh]
      exact .of_eq rfl
  | case2 previous body tail =>
      rw [List.map_cons, List.cons_append, runSteps, runItems]
      exact Coincide.andThen_unlessStopped fun _ _ => rfl
  | case3 previous text tail afterBlock afterLine =>
      rw [List.map_cons, List.cons_append, runSteps_line, runItems_line,
        blockBelow_append afresh]
      apply Coincide.andThen_unlessStopped
      rw [andThen, bind_assoc]
      have same : Follows (runLine run fuel surroundings verbose text (blockAt tail))
          (runLine run fuel surroundings verbose text (blockAt tail)) :=
        follows_runLine steady (Nat.le_refl _) unwatched _ _ _
      have taken : Returns (fun result => blockAt tail = none → result.tookBlock = false)
          (runLine run fuel surroundings verbose text (blockAt tail)) := by
        intro state result final ended absent
        rw [absent] at ended
        exact returns_runLine run fuel surroundings verbose text ended
      refine Coincide.bind_of_returns same taken fun result untaken => ?_
      unfold goOn
      split
      · exact .of_eq rfl
      · split
        · rename_i took
          cases tail with
          | nil => exact absurd (untaken rfl) (by rw [took]; decide)
          | cons _ tail => exact afterBlock
        · exact afterLine

/-- Iterations without frames, each with the loop's variable bound to one of the values. -/
def rounds (name : String) (part : Run Bool) : List String → Run Bool
  | [] => return true
  | value :: rest => do
      Run.setVariable name (.scalar value)
      andThen part (rounds name part rest)

theorem runSteps_unrolled (name : String) (body : List Instruction) (values : List String) :
    Coincide (runSteps run fuel surroundings verbose none (unrolled name body values))
      (rounds name (runItems run fuel surroundings verbose none body) values) := by
  induction values with
  | nil =>
      rw [unrolled, List.flatMap_nil, runSteps]
      exact .of_eq rfl
  | cons value values induction =>
      have shape : unrolled name body (value :: values) =
          .bind name value :: (body.map .instruction ++ unrolled name body values) := rfl
      have bound : Follows (Run.setVariable name (.scalar value))
          (Run.setVariable name (.scalar value)) :=
        (Elementary.setVariable name _).follows unwatched
      have ran : Follows (runItems run fuel surroundings verbose none body)
          (runItems run fuel surroundings verbose none body) :=
        follows_runItems steady (Nat.le_refl _) unwatched _ _ _
      rw [shape, runSteps, rounds]
      refine (Coincide.unlessStopped _).trans (.bind bound fun _ => ?_)
      refine (runSteps_append steady unwatched (startAfresh_unrolled ..) none body).trans ?_
      refine .bind ran fun succeeded => ?_
      cases succeeded with
      | false => exact .of_eq rfl
      | true => exact induction

end Seams

end Runbook.Engine
