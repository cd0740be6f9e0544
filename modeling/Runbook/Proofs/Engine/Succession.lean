import Runbook.Proofs.Engine.Following
import Runbook.Proofs.Engine.Reporting
import Runbook.Proofs.Engine.Understanding

/-! # Instructions in turn

A block runs its instructions one after the other. As long as its lines succeed, each of
them starts where the one before it ended, and the block below a line goes to the command
of this line if that takes blocks. What comes first after these successes decides how
the run ends, and whatever stands behind it is never looked at.
-/

namespace Runbook.Engine

open Script (Instruction)

/-! ## Lines that succeed -/

/-- A line that succeeded: its command, and the block that went to this command. -/
structure Success where
  line : String
  command : Command
  block : Option (List Instruction)
  takes : block.isSome = true → command.takesBlock = true

/-- The instructions that a success accounts for. -/
def Success.instructions (success : Success) : List Instruction :=
  .line success.line :: (success.block.map .block).toList

section Running

variable (run : Runner) (fuel : Nat) (surroundings : Surroundings) (verbose : Bool)

/-- How a line succeeds. It is understood, and then either help on its command is all
that it asks for, or the command is run with the block and succeeds. -/
inductive Succeeds (state : State) (success : Success) : State → Prop
  | helped {expanded middle} :
      (understand surroundings verbose success.line).outcome state =
        (some (.ok (expanded, .help success.command)), middle) →
      Succeeds state success
        ((surroundings.say (success.command.helpScreen true true)).outcome middle).2
  | performed {expanded setup middle final} :
      (understand surroundings verbose success.line).outcome state =
        (some (.ok (expanded, .ready setup)), middle) →
      setup.command = success.command →
      (dispatch run fuel surroundings expanded setup success.block).outcome middle =
        (some (.ok true), final) →
      Succeeds state success final

/-- Lines that succeed one after the other, none of them after a request to stop. -/
inductive SucceedInTurn : State → List Success → State → Prop
  | nil (state) : SucceedInTurn state [] state
  | cons {state middle final success successes} :
      state.isStopped = false →
      Succeeds run fuel surroundings verbose state success middle →
      SucceedInTurn middle successes final →
      SucceedInTurn state (success :: successes) final

/-! ## What comes after them -/

/-- What the report of a stray block tells about the line before the block. -/
def previousOf : Option Success → Option String
  | none => none
  | some last =>
      if last.block.isSome then none
      else some (String.ofList (Text.firstWord last.line.toList))

/-- Whether the last line, if there is one, leaves the block that follows to nobody. -/
def LeavesBlock (last : Option Success) : Prop :=
  ∀ success, last = some success → success.block = none → success.command.takesBlock = false

/-- How a run of instructions ends that is not asked to stop. Of the instructions that are
left, it looks only at the first, and at a block right below it. -/
inductive Ends (last : Option Success) (state : State) :
    List Instruction → Except Fault Bool → State → Prop
  | done : Ends last state [] (.ok true) state
  | failed {text rest tookBlock final} :
      state.isStopped = false →
      (runLine run fuel surroundings verbose text (blockAt rest)).outcome state =
        (some (.ok ⟨false, tookBlock⟩), final) →
      Ends last state (.line text :: rest) (.ok false) final
  | faulty {text rest fault final} :
      state.isStopped = false →
      (runLine run fuel surroundings verbose text (blockAt rest)).outcome state =
        (some (.error fault), final) →
      Ends last state (.line text :: rest) (.error fault) final
  | stray {body rest} :
      state.isStopped = false →
      LeavesBlock last →
      Ends last state (.block body :: rest) (.ok false)
        ((fail surroundings (strayBlock (previousOf last))).outcome state).2

end Running

variable {run : Runner} {fuel : Nat} {surroundings : Surroundings} {verbose : Bool}

theorem outcome_unlessStopped_eq_ite (part : Run Bool) (state : State) :
    (unlessStopped part).outcome state =
      if state.isStopped then
        (Run.record .info "Execution stopped" >>= fun _ => return true : Run Bool).outcome state
      else part.outcome state := by
  have asked : (unlessStopped part).outcome state =
      (if state.isStopped then Run.record .info "Execution stopped" >>= fun _ => return true
        else part).outcome state := rfl
  rw [asked]
  split <;> rfl

theorem outcome_unlessStopped {part : Run Bool} {state : State} (goesOn : state.isStopped = false) :
    (unlessStopped part).outcome state = part.outcome state := by
  simp [outcome_unlessStopped_eq_ite, goesOn]

/-- A part that ends in any other way than it does after a request to stop was run. -/
theorem unlessStopped_ended {part : Run Bool} {state final : State} {result : Except Fault Bool}
    (ended : (unlessStopped part).outcome state = (some result, final))
    (goesOn : result = .ok true → final.isStopped = false) :
    state.isStopped = false ∧ part.outcome state = (some result, final) := by
  rw [outcome_unlessStopped_eq_ite] at ended
  cases stopped : state.isStopped with
  | false =>
      rw [stopped, if_neg Bool.false_ne_true] at ended
      exact ⟨rfl, ended⟩
  | true =>
      rw [stopped, if_pos rfl] at ended
      cases ended
      have still : state.isStopped = false := goesOn rfl
      rw [stopped] at still
      contradiction

/-! ## One line -/

/-- What a command claims is a success of its line, if the line succeeds. -/
def Success.claiming (line : String) (command : Command) (below : Option (List Instruction)) :
    Success where
  line := line
  command := command
  block := claimed command below
  takes := by
    intro given
    rw [isSome_claimed, Bool.and_eq_true] at given
    exact given.2

theorem returns_refuse (inScript : Bool) (error : ScriptError) :
    Returns (fun succeeded => succeeded = false) (refuse surroundings inScript error) :=
  .after fun _ => .after fun _ => .pure rfl

theorem exists_success_of_runLine {state final : State} {line : String}
    {below : Option (List Instruction)} {tookBlock : Bool}
    (ended : (runLine run fuel surroundings verbose line below).outcome state =
      (some (.ok ⟨true, tookBlock⟩), final)) :
    ∃ success : Success, success.line = line ∧ success.block = claimed success.command below ∧
      tookBlock = success.block.isSome ∧
      Succeeds run fuel surroundings verbose state success final := by
  rw [runLine_eq] at ended
  rcases Run.outcome_bind_ended ended with
    ⟨⟨expanded, resolution⟩, middle, understood, carried⟩ | ⟨_, _, ⟨⟩⟩
  cases resolution with
  | refused error =>
      rcases Run.outcome_bind_ended carried with ⟨succeeded, after, refused, returned⟩ | ⟨_, _, ⟨⟩⟩
      have failed : succeeded = false := returns_refuse true error refused
      rw [failed] at returned
      cases returned
  | help command =>
      cases carried
      exact ⟨.claiming line command below, rfl, rfl, rfl, .helped understood⟩
  | ready setup =>
      rcases Run.outcome_bind_ended carried with ⟨succeeded, after, performed, returned⟩ | ⟨_, _, ⟨⟩⟩
      cases returned
      exact ⟨.claiming line setup.command below, rfl, rfl, rfl, .performed understood rfl performed⟩

theorem Succeeds.outcome_runLine {state final : State} {success : Success}
    {below : Option (List Instruction)}
    (succeeds : Succeeds run fuel surroundings verbose state success final)
    (gets : success.block = claimed success.command below) :
    (runLine run fuel surroundings verbose success.line below).outcome state =
      (some (.ok ⟨true, success.block.isSome⟩), final) := by
  rw [runLine_eq, Run.outcome_bind]
  cases succeeds with
  | helped understood =>
      rw [understood, Run.proceed, gets]
      rfl
  | performed understood same performed =>
      rw [gets, ← same] at performed
      rw [understood, Run.proceed, carryOut, Run.outcome_bind, performed, gets, ← same]
      rfl

/-! ## Lines in a row -/

theorem eq_cons_of_blockAt {instructions : List Instruction} {body : List Instruction}
    (below : blockAt instructions = some body) : ∃ rest, instructions = .block body :: rest := by
  cases instructions with
  | nil => cases below
  | cons first rest =>
      cases first with
      | line text => cases below
      | block other =>
          cases below
          exact ⟨rest, rfl⟩

theorem eq_some_of_claimed {command : Command} {below : Option (List Instruction)}
    {body : List Instruction} (given : claimed command below = some body) : below = some body := by
  unfold claimed at given
  split at given
  · exact given
  · cases given

namespace Success

variable {success : Success}

theorem instructions_of_none (unclaimed : success.block = none) :
    success.instructions = [.line success.line] := by
  simp [instructions, unclaimed]

theorem instructions_of_some {body : List Instruction} (given : success.block = some body) :
    success.instructions = [.line success.line, .block body] := by
  simp [instructions, given]

theorem previousOf_of_none (unclaimed : success.block = none) :
    previousOf (some success) = some (String.ofList (Text.firstWord success.line.toList)) := by
  simp [previousOf, unclaimed]

theorem previousOf_of_some {body : List Instruction} (given : success.block = some body) :
    previousOf (some success) = none := by
  simp [previousOf, given]

/-- A block that is still there behind a success is one that its command does not take. -/
theorem leavesBlock {below : Option (List Instruction)}
    (gets : success.block = claimed success.command below) (present : below.isSome = true) :
    LeavesBlock (some success) := by
  intro other same unclaimed
  cases same
  have untaken := isSome_claimed success.command below
  rw [← gets, unclaimed, present, Bool.true_and] at untaken
  exact untaken.symm

end Success

theorem leavesBlock_of_some {success : Success} {body : List Instruction}
    (given : success.block = some body) : LeavesBlock (some success) := by
  intro other same unclaimed
  cases same
  rw [given] at unclaimed
  contradiction

theorem getLast?_or_some (successes : List Success) (last : Option Success) (success : Success) :
    successes.getLast?.or (some success) = (success :: successes).getLast?.or last := by
  cases shape : successes.getLast? <;> simp [List.getLast?_cons, shape]

/-- What a run of instructions comes to that is not asked to stop: some of its lines
succeed, and then it ends. -/
def ComesTo (run : Runner) (fuel : Nat) (surroundings : Surroundings) (verbose : Bool)
    (last : Option Success) (state : State) (instructions : List Instruction)
    (result : Except Fault Bool) (final : State) : Prop :=
  ∃ successes left middle, instructions = successes.flatMap Success.instructions ++ left ∧
    SucceedInTurn run fuel surroundings verbose state successes middle ∧
    Ends run fuel surroundings verbose (successes.getLast?.or last) middle left result final

theorem ComesTo.of_ends {last : Option Success} {state final : State}
    {instructions : List Instruction} {result : Except Fault Bool}
    (ends : Ends run fuel surroundings verbose last state instructions result final) :
    ComesTo run fuel surroundings verbose last state instructions result final :=
  ⟨[], instructions, state, rfl, .nil state, ends⟩

theorem ComesTo.after_success {last : Option Success} {state middle final : State}
    {success : Success} {instructions rest : List Instruction} {result : Except Fault Bool}
    (comes : ComesTo run fuel surroundings verbose (some success) middle rest result final)
    (parts : instructions = success.instructions ++ rest)
    (goesOn : state.isStopped = false)
    (succeeds : Succeeds run fuel surroundings verbose state success middle) :
    ComesTo run fuel surroundings verbose last state instructions result final := by
  rcases comes with ⟨successes, left, after, restParts, inTurn, ends⟩
  refine ⟨success :: successes, left, after, ?_, .cons goesOn succeeds inTurn, ?_⟩
  · rw [parts, restParts, List.flatMap_cons, List.append_assoc]
  · rw [← getLast?_or_some]
    exact ends

theorem comesTo_of_runItems (previous : Option String) (instructions : List Instruction)
    {last : Option Success} {state final : State} {result : Except Fault Bool}
    (ended : (runItems run fuel surroundings verbose previous instructions).outcome state =
      (some result, final))
    (goesOn : result = .ok true → final.isStopped = false)
    (known : previous = previousOf last)
    (leaves : (blockAt instructions).isSome = true → LeavesBlock last) :
    ComesTo run fuel surroundings verbose last state instructions result final := by
  induction previous, instructions using runItems.induct generalizing last state with
  | case1 previous =>
      rw [runItems] at ended
      cases ended
      exact .of_ends .done
  | case2 previous body rest =>
      rw [runItems] at ended
      rcases unlessStopped_ended ended goesOn with ⟨unstopped, failed⟩
      cases failed
      rw [known]
      exact .of_ends (.stray unstopped (leaves rfl))
  | case3 previous text rest afterBlock afterLine =>
      rw [runItems_line] at ended
      rcases unlessStopped_ended ended goesOn with ⟨unstopped, ran⟩
      rcases Run.outcome_bind_ended ran with
        ⟨⟨succeeded, tookBlock⟩, middle, lineEnded, wentOn⟩ | ⟨fault, faulty, rfl⟩
      · cases succeeded with
        | false =>
            cases wentOn
            exact .of_ends (.failed unstopped lineEnded)
        | true =>
            rcases exists_success_of_runLine lineEnded with ⟨success, rfl, gets, rfl, succeeds⟩
            cases given : success.block with
            | none =>
                rw [given] at wentOn
                have named := Success.previousOf_of_none given
                have comes := afterLine wentOn named.symm (Success.leavesBlock gets)
                have parts := congrArg (· ++ rest) (Success.instructions_of_none given)
                exact comes.after_success parts.symm unstopped succeeds
            | some body =>
                rw [given] at wentOn gets
                rcases eq_cons_of_blockAt (eq_some_of_claimed gets.symm) with ⟨others, rfl⟩
                have unnamed := Success.previousOf_of_some given
                have comes := afterBlock wentOn unnamed.symm fun _ => leavesBlock_of_some given
                have parts := congrArg (· ++ others) (Success.instructions_of_some given)
                exact comes.after_success parts.symm unstopped succeeds
      · exact .of_ends (.faulty unstopped faulty)

/-- A success gets what it has claimed in any run in which nobody else would. -/
theorem Success.gets (success : Success) {rest : List Instruction}
    (leaves : (blockAt rest).isSome = true → LeavesBlock (some success)) :
    success.block =
      claimed success.command (blockAt ((success.block.map .block).toList ++ rest)) := by
  cases given : success.block with
  | some body =>
      have takes := success.takes (by rw [given]; rfl)
      simp [claimed, takes, blockAt]
  | none =>
      cases below : blockAt rest with
      | none => simp [claimed, below]
      | some body =>
          have refuses := leaves (by rw [below]; rfl) success rfl given
          simp [claimed, refuses]

theorem leavesBlock_behind {success : Success} {successes : List Success}
    {left : List Instruction} {last : Option Success}
    (leaves : (blockAt left).isSome = true →
      LeavesBlock ((success :: successes).getLast?.or last))
    (present : (blockAt (successes.flatMap Success.instructions ++ left)).isSome = true) :
    LeavesBlock (some success) := by
  cases successes with
  | nil => exact leaves present
  | cons next others => contradiction

/-- What is left behind lines that have succeeded is run from where they ended. -/
theorem SucceedInTurn.outcome_runItems {state middle : State} {successes : List Success}
    (inTurn : SucceedInTurn run fuel surroundings verbose state successes middle)
    {left : List Instruction} (last : Option Success)
    (leaves : (blockAt left).isSome = true → LeavesBlock (successes.getLast?.or last)) :
    (runItems run fuel surroundings verbose (previousOf last)
        (successes.flatMap Success.instructions ++ left)).outcome state =
      (runItems run fuel surroundings verbose (previousOf (successes.getLast?.or last))
        left).outcome middle := by
  induction inTurn generalizing last with
  | nil state => rfl
  | @cons state next final success successes goesOn succeeds rest induction =>
      have gets := success.gets (leavesBlock_behind leaves)
      have ran := succeeds.outcome_runLine gets
      rw [← getLast?_or_some] at leaves ⊢
      rw [← induction (some success) leaves, List.flatMap_cons, List.append_assoc,
        Success.instructions, List.cons_append, runItems_line, outcome_unlessStopped goesOn,
        Run.outcome_bind, ran, Run.proceed]
      cases given : success.block with
      | none => rw [Success.previousOf_of_none given]; rfl
      | some body => rw [Success.previousOf_of_some given]; rfl

theorem Ends.leaves {last : Option Success} {state final : State} {left : List Instruction}
    {result : Except Fault Bool}
    (ends : Ends run fuel surroundings verbose last state left result final)
    (present : (blockAt left).isSome = true) : LeavesBlock last := by
  cases ends with
  | done => contradiction
  | failed unstopped ran => contradiction
  | faulty unstopped ran => contradiction
  | stray unstopped leaves => exact leaves

theorem Ends.outcome_runItems {last : Option Success} {state final : State}
    {left : List Instruction} {result : Except Fault Bool}
    (ends : Ends run fuel surroundings verbose last state left result final) :
    (runItems run fuel surroundings verbose (previousOf last) left).outcome state =
      (some result, final) := by
  cases ends with
  | done => rw [runItems]; rfl
  | failed unstopped ran =>
      rw [runItems_line, outcome_unlessStopped unstopped, Run.outcome_bind, ran]
      rfl
  | faulty unstopped ran =>
      rw [runItems_line, outcome_unlessStopped unstopped, Run.outcome_bind, ran]
      rfl
  | stray unstopped leaves =>
      rw [runItems, outcome_unlessStopped unstopped]
      rfl

/-! ## Blocks -/

/-- A block whose run is not asked to stop comes to what its lines do in turn. -/
theorem outcome_runBlock_iff (instructions : List Instruction) {state final : State}
    {result : Except Fault Bool} (goesOn : result = .ok true → final.isStopped = false) :
    (runBlock (fuel + 1) surroundings verbose instructions).outcome state =
        (some result, final) ↔
      ComesTo (runBlock fuel) fuel surroundings verbose none state instructions result final := by
  constructor
  · intro ended
    exact comesTo_of_runItems none instructions ended goesOn rfl fun _ _ same => by cases same
  · rintro ⟨successes, left, middle, rfl, inTurn, ends⟩
    have ran := inTurn.outcome_runItems none ends.leaves
    rw [ends.outcome_runItems] at ran
    exact ran

/-- A block that succeeds without being asked to stop consists of lines that succeed in
turn, with the blocks that go to their commands. A block that fails does so at the first
instruction that does not succeed, and does nothing about those behind it. Such an
instruction is a block that stands first, or below a line that has succeeded with a
command that takes no block. -/
theorem runBlock_in_turn (fuel : Nat) (surroundings : Surroundings) (verbose : Bool)
    (instructions : List Instruction) (state : State) :
    (∀ final,
      (runBlock (fuel + 1) surroundings verbose instructions).outcome state =
        (some (.ok true), final) →
      final.isStopped = false →
      ∃ successes, instructions = successes.flatMap Success.instructions ∧
        SucceedInTurn (runBlock fuel) fuel surroundings verbose state successes final) ∧
    (∀ result final,
      (runBlock (fuel + 1) surroundings verbose instructions).outcome state =
        (some result, final) →
      result ≠ .ok true →
      ∃ successes failing rest middle,
        instructions = successes.flatMap Success.instructions ++ failing :: rest ∧
        SucceedInTurn (runBlock fuel) fuel surroundings verbose state successes middle ∧
        Ends (runBlock fuel) fuel surroundings verbose successes.getLast? middle
          (failing :: rest) result final) ∧
    ∀ successes body rest middle,
      instructions = successes.flatMap Success.instructions ++ .block body :: rest →
      SucceedInTurn (runBlock fuel) fuel surroundings verbose state successes middle →
      middle.isStopped = false →
      LeavesBlock successes.getLast? →
      (runBlock (fuel + 1) surroundings verbose instructions).outcome state =
        (some (.ok false), ((fail surroundings
          (strayBlock (previousOf successes.getLast?))).outcome middle).2) := by
  refine ⟨?_, ?_, ?_⟩
  · intro final ended goesOn
    rcases (outcome_runBlock_iff instructions fun _ => goesOn).mp ended with
      ⟨successes, left, middle, parts, inTurn, ends⟩
    cases ends with
    | done => exact ⟨successes, by rw [parts, List.append_nil], inTurn⟩
  · intro result final ended failed
    rcases (outcome_runBlock_iff instructions fun same => absurd same failed).mp ended with
      ⟨successes, left, middle, parts, inTurn, ends⟩
    rw [Option.or_none] at ends
    cases left with
    | nil =>
        cases ends
        contradiction
    | cons failing rest => exact ⟨successes, failing, rest, middle, parts, inTurn, ends⟩
  · intro successes body rest middle parts inTurn goesOn leaves
    apply (outcome_runBlock_iff instructions (by intro same; cases same)).mpr
    refine ⟨successes, .block body :: rest, middle, parts, inTurn, ?_⟩
    rw [Option.or_none]
    exact .stray goesOn leaves

/-! ### A block that is taken, and one that is not -/

/-- A loop that takes its block, and a line that only asks for help on loops. -/
def takenBlocks : List Instruction :=
  [.line "foreach --iterate xs --dest x", .block [.line "set y=${x}"],
    .line "foreach --help", .block [.line "set y=b"]]

def unwantedBlock : List Instruction :=
  [.line "echo --message ${xs}", .block [.line "echo --message b"], .line "echo --message c"]

def scalarState : State :=
  .initial (Variables.empty.set "xs" (.scalar "a")) ⟨.directory (.ofList []), []⟩

theorem runBlock_in_turn_unwantedBlock :
    (∃ successes final, takenBlocks = successes.flatMap Success.instructions ∧
      SucceedInTurn (runBlock 4) 4 bareSurroundings false scalarState successes final) ∧
    ∃ success middle final, success.line = "echo --message ${xs}" ∧
      Succeeds (runBlock 4) 4 bareSurroundings false scalarState success middle ∧
      final = ((fail bareSurroundings
        "Command 'echo' does not accept a nested block!").outcome middle).2 ∧
      (runBlock 5 bareSurroundings false unwantedBlock).outcome scalarState =
        (some (.ok false), final) ∧
      ∃ successes failing rest after,
        unwantedBlock = successes.flatMap Success.instructions ++ failing :: rest ∧
        SucceedInTurn (runBlock 4) 4 bareSurroundings false scalarState successes after ∧
        Ends (runBlock 4) 4 bareSurroundings false successes.getLast? after
          (failing :: rest) (.ok false) final := by
  have taken := Run.outcome_eq_ok (runBlock 5 bareSurroundings false takenBlocks) scalarState
    true (by decide +kernel)
  have unstopped : ((runBlock 5 bareSurroundings false takenBlocks).outcome
      scalarState).2.isStopped = false := by decide +kernel
  rcases (runBlock_in_turn 4 bareSurroundings false takenBlocks scalarState).1 _ taken
    unstopped with ⟨successes, parts, inTurn⟩
  refine ⟨⟨successes, _, parts, inTurn⟩, ?_⟩
  have ran := Run.outcome_eq_ok (runLine (runBlock 4) 4 bareSurroundings false
    "echo --message ${xs}" (some [.line "echo --message b"])) scalarState ⟨true, false⟩
    (by decide +kernel)
  have goesOn : ((runLine (runBlock 4) 4 bareSurroundings false "echo --message ${xs}"
      (some [.line "echo --message b"])).outcome scalarState).2.isStopped = false := by
    decide +kernel
  rcases exists_success_of_runLine ran with ⟨success, line, gets, took, succeeds⟩
  have unclaimed : success.block = none := by simpa using took.symm
  have shape : unwantedBlock = [success].flatMap Success.instructions ++
      .block [.line "echo --message b"] :: [.line "echo --message c"] := by
    rw [List.flatMap_singleton, Success.instructions_of_none unclaimed, line]
    rfl
  have message : strayBlock (previousOf [success].getLast?) =
      "Command 'echo' does not accept a nested block!" := by
    rw [List.getLast?_singleton, Success.previousOf_of_none unclaimed, line]
    decide +kernel
  rcases runBlock_in_turn 4 bareSurroundings false unwantedBlock scalarState with
    ⟨_, fails, rejects⟩
  have rejected := rejects [success] _ _ _ shape (.cons rfl succeeds (.nil _)) goesOn
    (Success.leavesBlock gets rfl)
  rw [message] at rejected
  exact ⟨success, _, _, line, succeeds, rfl, rejected,
    fails _ _ rejected (by intro same; cases same)⟩

end Runbook.Engine
