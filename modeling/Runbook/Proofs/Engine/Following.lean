import Runbook.Proofs.Engine.Parts

/-! # Running lines from states that look alike

What the engine does with a line, and with the blocks below it, depends on nothing that
cannot be seen of a run. More fuel changes nothing either: a run that ends is followed by
the one that has more. Loops and scripts are the parts of the engine that are not
elementary, for they are given a way to run lines; they follow each other if these ways
do.
-/

namespace Runbook

open Script (Instruction)

/-! ## Scripts -/

theorem State.view_showing {left right : State} (same : left.view = right.view)
    (bindings : Variables) (errors : List String) :
    (left.showing bindings errors).view = (right.showing bindings errors).view := by
  change { left.view with bindings := bindings, errors := errors } = _
  rw [same]
  rfl

theorem Follows.runApart {leader follower : Run Bool} (follows : Follows leader follower) :
    Follows (Engine.runApart leader) (Engine.runApart follower) := by
  intro left right alike result final ended
  rw [Engine.outcome_runApart] at ended ⊢
  have apart : Alike (left.showing .empty []) (right.showing .empty []) :=
    ⟨State.view_showing alike.view _ _, alike.goesOn, alike.goesOnToo⟩
  generalize reached : leader.outcome _ = outcome at ended
  rcases outcome with ⟨_ | fault | succeeded, inner⟩
  · cases ended
  · rcases follows apart reached with ⟨after, followed, view, stops, stopsToo⟩
    cases ended
    rw [followed, alike.bindings, alike.errors]
    exact ⟨_, rfl, State.view_showing view _ _, stops, stopsToo⟩
  · rcases follows apart reached with ⟨after, followed, view, stops, stopsToo⟩
    have errors : inner.errors = after.errors := congrArg View.errors view
    cases ended
    rw [followed, Engine.rejoin, alike.bindings, alike.errors, errors]
    exact ⟨_, rfl, State.view_showing view _ _, stops, stopsToo⟩

namespace Engine

/-! ## Reports -/

section Reports

variable {surroundings : Surroundings} (unwatched : surroundings.Unwatched)
include unwatched

theorem follows_report (message : String) :
    Follows (report surroundings message) (report surroundings message) :=
  (Follows.addError message).bind fun _ => .print unwatched false message

theorem follows_fail (message : String) :
    Follows (fail surroundings message) (fail surroundings message) :=
  (follows_report unwatched message).bind fun _ => .pure false

theorem follows_refuse (inScript : Bool) (error : ScriptError) :
    Follows (refuse surroundings inScript error) (refuse surroundings inScript error) := by
  refine (follows_report unwatched error.message).bind fun _ => ?_
  have shown := (elementary_showAlternatives inScript error).follows unwatched
  exact shown.bind fun _ => .pure false

theorem follows_reportEnding (command : Command) (ending : Ending) :
    Follows (reportEnding surroundings command ending)
      (reportEnding surroundings command ending) := by
  unfold reportEnding
  rcases ending with _ | _ | ⟨message, rest⟩
  · exact .pure true
  · exact (Follows.note rfl).bind fun _ => .pure false
  · refine (follows_report unwatched _).bind fun _ => ?_
    exact (Follows.note rfl).bind fun _ => .pure false

theorem follows_conclude (command : Command) (line : String) (result : Except Fault Bool) :
    Follows (conclude surroundings command line result)
      (conclude surroundings command line result) := by
  cases result with
  | ok succeeded => exact .pure succeeded
  | error fault =>
      unfold conclude reportFault
      refine (Follows.note rfl).bind fun _ => ?_
      refine (Follows.addError _).bind fun _ => ?_
      exact (Follows.print unwatched false _).bind fun _ => .pure false

end Reports

/-! ## Lines and blocks -/

/-- What is run after a line, given a way to run the items that follow it. -/
def goOn {ι : Type} (runRest : Option String → List ι → Run Bool) (text : String)
    (rest : List ι) (result : LineResult) : Run Bool :=
  if !result.succeeded then return false
  else if result.tookBlock then runRest none rest.tail
  else runRest (some (String.ofList (Text.firstWord text.toList))) rest

theorem runItems_line (run : Runner) (fuel : Nat) (surroundings : Surroundings) (verbose : Bool)
    (previous : Option String) (text : String) (rest : List Instruction) :
    runItems run fuel surroundings verbose previous (.line text :: rest) = unlessStopped
      (runLine run fuel surroundings verbose text (blockAt rest) >>=
        goOn (runItems run fuel surroundings verbose) text rest) := by
  cases rest with
  | nil =>
      rw [runItems]
      congr
  | cons _ rest =>
      rw [runItems]
      rfl

section Running

variable {surroundings : Surroundings} {run run' : Runner} {fuel more : Nat}
  (runs : ∀ surroundings : Surroundings, surroundings.Unwatched → ∀ verbose instructions,
    Follows (run surroundings verbose instructions) (run' surroundings verbose instructions))
  (enough : fuel ≤ more) (unwatched : surroundings.Unwatched)
include runs enough unwatched

theorem follows_loop (command : Command) (settings : Options.Settings)
    (block : List Instruction) (supply : Supply) :
    Follows (loop run surroundings command settings block fuel supply)
      (loop run' surroundings command settings block more supply) := by
  induction fuel generalizing more supply with
  | zero => exact .outOfFuel
  | succ fuel induction =>
      cases more with
      | zero => contradiction
      | succ more =>
          unfold loop
          split
          · exact .pure _
          · refine Follows.isStopped.bind fun stopped => ?_
            split
            · exact (Follows.note rfl).bind fun _ => .pure _
            · refine ((Elementary.setVariable _ _).follows unwatched).bind fun _ => ?_
              refine ((elementary_echo _ _).follows unwatched).bind fun _ => ?_
              refine (runs surroundings unwatched _ block).inInnerFrame.bind fun succeeded => ?_
              split
              · exact induction (Nat.le_of_succ_le_succ enough) _
              · exact .pure _

theorem follows_runLoop (command : Command) (settings : Options.Settings)
    (block : Option (List Instruction)) :
    Follows (runLoop run fuel surroundings command settings block)
      (runLoop run' more surroundings command settings block) := by
  unfold runLoop
  split
  · exact .pure _
  · refine ((elementary_supplyOf _ _).follows unwatched).bind fun result => ?_
    cases result with
    | error ending => exact .pure _
    | ok supply => exact follows_loop runs enough unwatched command settings _ supply

omit enough in
theorem follows_runScript (settings : Options.Settings) :
    Follows (runScript run surroundings settings) (runScript run' surroundings settings) := by
  unfold runScript
  refine ((elementary_readScript _).follows unwatched).bind fun result => ?_
  cases result with
  | error ending => exact .pure _
  | ok outline =>
      refine (Follows.note rfl).bind fun _ => ?_
      apply Follows.runApart
      exact (runs _ (by exact unwatched) _ _).inInnerFrame

theorem follows_perform (command : Command) (given : Given)
    (block : Option (List Instruction)) :
    Follows (perform run fuel surroundings command given block)
      (perform run' more surroundings command given block) := by
  cases plain : command.runsLines with
  | false =>
      have same : perform run fuel surroundings command given block =
          perform run' more surroundings command given block := by
        cases command with
        | script | forRange | forEach => contradiction
        | _ => rfl
      rw [same]
      exact (elementary_perform plain run' more given block).follows unwatched
  | true =>
      cases command with
      | script => exact follows_runScript runs unwatched _
      | forRange => exact follows_runLoop runs enough unwatched _ _ block
      | forEach => exact follows_runLoop runs enough unwatched _ _ block
      | _ => contradiction

theorem follows_execute (setup : Setup) (block : Option (List Instruction)) :
    Follows (execute run fuel surroundings setup block)
      (execute run' more surroundings setup block) := by
  unfold execute
  refine ((elementary_readOptions _ _).follows unwatched).bind fun result => ?_
  cases result with
  | error messages => exact .pure _
  | ok read => exact follows_perform runs enough unwatched _ _ block

theorem follows_runSetup (setup : Setup) (block : Option (List Instruction)) :
    Follows (runSetup run fuel surroundings setup block)
      (runSetup run' more surroundings setup block) :=
  (follows_execute runs enough unwatched setup block).bind fun ending =>
    follows_reportEnding unwatched setup.command ending

theorem follows_dispatch (line : String) (setup : Setup) (block : Option (List Instruction)) :
    Follows (dispatch run fuel surroundings line setup block)
      (dispatch run' more surroundings line setup block) := by
  apply Follows.inFrame
  refine (Follows.note rfl).bind fun _ => ?_
  refine (follows_runSetup runs enough unwatched setup block).attempt.bind fun result => ?_
  exact follows_conclude unwatched _ line result

theorem follows_runExpanded (line : String) (block : Option (List Instruction)) :
    Follows (runExpanded run fuel surroundings line block)
      (runExpanded run' more surroundings line block) := by
  unfold runExpanded
  split
  · exact (follows_fail unwatched _).bind fun _ => .pure _
  · refine .get fun left right alike => ?_
    rw [alike.files]
    refine ((Elementary.ofLogged _).follows unwatched).bind fun resolution => ?_
    cases resolution with
    | refused error =>
        exact (follows_refuse unwatched true error).bind fun _ => .pure _
    | help command =>
        exact (Follows.print unwatched true _).bind fun _ => .pure _
    | ready setup =>
        exact (follows_dispatch runs enough unwatched line setup _).bind fun _ => .pure _

theorem follows_runLine (verbose : Bool) (line : String) (block : Option (List Instruction)) :
    Follows (runLine run fuel surroundings verbose line block)
      (runLine run' more surroundings verbose line block) := by
  unfold runLine
  refine (Follows.note rfl).bind fun _ => ?_
  refine ((elementary_echo _ _).follows unwatched).bind fun _ => ?_
  refine .get fun left right alike => ?_
  rw [alike.bindings]
  split
  · exact .throw _
  · exact (follows_fail unwatched _).bind fun _ => .pure _
  · refine ((elementary_echo _ _).follows unwatched).bind fun _ => ?_
    exact follows_runExpanded runs enough unwatched _ block

omit runs enough unwatched in
theorem follows_unlessStopped {leader follower : Run Bool} (follows : Follows leader follower) :
    Follows (unlessStopped leader) (unlessStopped follower) := by
  unfold unlessStopped
  refine Follows.isStopped.bind fun stopped => ?_
  split
  · exact (Follows.note rfl).bind fun _ => .pure _
  · exact follows

theorem follows_runItems (verbose : Bool) (previous : Option String)
    (instructions : List Instruction) :
    Follows (runItems run fuel surroundings verbose previous instructions)
      (runItems run' more surroundings verbose previous instructions) := by
  induction previous, instructions using runItems.induct with
  | case1 =>
      rw [runItems, runItems]
      exact .pure true
  | case2 =>
      rw [runItems, runItems]
      exact follows_unlessStopped (follows_fail unwatched _)
  | case3 previous text rest afterBlock afterLine =>
      rw [runItems_line, runItems_line]
      apply follows_unlessStopped
      refine (follows_runLine runs enough unwatched verbose text _).bind fun result => ?_
      unfold goOn
      split
      · exact .pure false
      · split
        · cases rest with
          | nil =>
              rw [List.tail_nil, runItems, runItems]
              exact .pure true
          | cons _ rest => exact afterBlock
        · exact afterLine

end Running

/-- A block whose run ends is run in the same way with more fuel, and from any state
that looks alike. -/
theorem follows_runBlock {fuel more : Nat} (enough : fuel ≤ more) (surroundings : Surroundings)
    (unwatched : surroundings.Unwatched) (verbose : Bool) (instructions : List Instruction) :
    Follows (runBlock fuel surroundings verbose instructions)
      (runBlock more surroundings verbose instructions) := by
  induction fuel generalizing more surroundings verbose instructions with
  | zero => exact .outOfFuel
  | succ fuel induction =>
      cases more with
      | zero => contradiction
      | succ more =>
          have less : fuel ≤ more := Nat.le_of_succ_le_succ enough
          exact follows_runItems (induction less) less unwatched verbose none instructions

end Engine

end Runbook
