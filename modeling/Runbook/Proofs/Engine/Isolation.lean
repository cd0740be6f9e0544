import Runbook.Proofs.Engine.Parts

/-! # Scripts do not see the variables and errors around them

A script has variables and errors of its own. Whoever runs it, with whatever variables and
after whatever errors, the script does the same. When it is over, the variables are as they
were, and the errors that it caused stand behind those that were there before.
-/

namespace Runbook

open Script (Instruction)

variable {α β : Type}

/-! ## Isolated parts -/

/-- How a part of a run has ended, whatever the variables and errors were before, and the
errors that it has caused. -/
structure Detached (α : Type) where
  result : Except Fault α
  final : State
  added : List String

/-- How the part has ended for those with such variables and errors before. -/
def Detached.within (bindings : Variables) (errors : List String) (ended : Detached α) :
    Except Fault α × State :=
  (ended.result, ended.final.showing bindings (errors ++ ended.added))

theorem Detached.within_unreported (bindings : Variables) (errors : List String)
    (result : Except Fault α) (final : State) :
    (⟨result, final, []⟩ : Detached α).within bindings errors =
      (result, final.showing bindings errors) := by
  rw [within, List.append_nil]

/-- A part does the same whatever the variables and errors are when it starts. It keeps
the variables, and puts the errors that it causes behind those from before. -/
def Isolated (part : Run α) : Prop :=
  ∀ state : State, ∃ ended : Option (Detached α), ∀ bindings errors,
    part.run (state.showing bindings errors) = ended.map (·.within bindings errors)

namespace Isolated

variable {part : Run α} {next : α → Run β}

theorem pure (value : α) : Isolated (Pure.pure value) := by
  refine fun state => ⟨some ⟨.ok value, state, []⟩, fun bindings errors => ?_⟩
  rw [Option.map_some, Detached.within_unreported]
  rfl

theorem throw (fault : Fault) : Isolated (MonadExcept.throw fault : Run α) := by
  refine fun state => ⟨some ⟨.error fault, state, []⟩, fun bindings errors => ?_⟩
  rw [Option.map_some, Detached.within_unreported]
  rfl

theorem bind (first : Isolated part) (rest : ∀ value, Isolated (next value)) :
    Isolated (part >>= next) := by
  intro state
  rcases first state with ⟨_ | ⟨fault | value, middle, added⟩, ran⟩
  · refine ⟨none, fun bindings errors => ?_⟩
    rw [Run.run_bind, ran]
    rfl
  · refine ⟨some ⟨.error fault, middle, added⟩, fun bindings errors => ?_⟩
    rw [Run.run_bind, ran]
    rfl
  · rcases rest value middle with ⟨ended, further⟩
    refine ⟨ended.map fun last => { last with added := added ++ last.added },
      fun bindings errors => ?_⟩
    rw [Run.run_bind, ran, Option.map_map]
    refine (further bindings (errors ++ added)).trans ?_
    refine congrArg (Option.map · ended) (funext fun last => ?_)
    rw [Function.comp_apply, Detached.within, Detached.within, List.append_assoc]

/-- What is read of the state must be neither variables nor errors. -/
theorem get {next : State → Run β}
    (reads : ∀ bindings errors state, next (state.showing bindings errors) = next state)
    (rest : ∀ state, Isolated (next state)) : Isolated (MonadState.get >>= next) := by
  intro state
  rcases rest state state with ⟨ended, ran⟩
  refine ⟨ended, fun bindings errors => ?_⟩
  rw [← ran, ← reads bindings errors state]
  rfl

theorem ofModify {change : State → State}
    (apart : ∀ bindings errors state,
      change (state.showing bindings errors) = (change state).showing bindings errors) :
    Isolated (modify change : Run Unit) := by
  refine fun state => ⟨some ⟨.ok (), change state, []⟩, fun bindings errors => ?_⟩
  rw [Option.map_some, Detached.within_unreported, ← apart]
  rfl

theorem attempt (isolated : Isolated part) : Isolated (Run.attempt part) := by
  intro state
  rcases isolated state with ⟨ended, ran⟩
  refine ⟨ended.map fun last => ⟨.ok last.result, last.final, last.added⟩, fun bindings errors => ?_⟩
  rw [Run.run_attempt, ran, Option.map_map, Option.map_map]
  rfl

theorem ofExcept (result : Except Fault α) : Isolated (Run.ofExcept result) := by
  cases result with
  | error fault => exact throw fault
  | ok value => exact pure value

theorem record (level : Log.Level) (message : String) : Isolated (Run.record level message) :=
  ofModify fun _ _ _ => rfl

theorem addError (message : String) : Isolated (Run.addError message) :=
  fun state => ⟨some ⟨.ok (), state, [message]⟩, fun _ _ => rfl⟩

theorem print (surroundings : Surroundings) (stdout : Bool) (text : String) :
    Isolated (surroundings.print stdout text) :=
  ofModify fun bindings errors state => by
    rw [apply_ite (State.showing bindings errors)]
    rfl

theorem inFrame (isolated : Isolated part) (stopped : Bool) :
    Isolated (Run.inFrame stopped part) := by
  refine (ofModify fun _ _ _ => rfl).bind fun _ => ?_
  refine isolated.attempt.bind fun result => ?_
  exact (ofModify fun _ _ _ => rfl).bind fun _ => ofExcept result

/-- Every part is isolated when it has variables and errors of its own. -/
theorem runApart (part : Run Bool) : Isolated (Engine.runApart part) := by
  intro state
  have reached (bindings : Variables) (errors : List String) :
      (Engine.runApart part).outcome (state.showing bindings errors) =
        Engine.rejoin (state.showing bindings errors) (part.outcome (state.showing .empty [])) :=
    Engine.outcome_runApart part _
  simp only [Run.run, reached]
  rcases part.outcome (state.showing .empty []) with ⟨_ | fault | succeeded, inner⟩
  · exact ⟨none, fun _ _ => rfl⟩
  · refine ⟨some ⟨.error fault, inner, []⟩, fun bindings errors => ?_⟩
    rw [Option.map_some, Detached.within_unreported]
    rfl
  · exact ⟨some ⟨.ok _, inner, inner.errors⟩, fun _ _ => rfl⟩

end Isolated

/-! ## Scripts -/

namespace Engine

variable (surroundings : Surroundings)

theorem isolated_report (message : String) : Isolated (report surroundings message) :=
  (Isolated.addError message).bind fun _ => .print surroundings false message

theorem isolated_reportEnding (command : Command) (ending : Ending) :
    Isolated (reportEnding surroundings command ending) := by
  unfold reportEnding
  rcases ending with _ | _ | ⟨message, rest⟩
  · exact .pure true
  · exact (Isolated.record _ _).bind fun _ => .pure false
  · refine (isolated_report surroundings _).bind fun _ => ?_
    exact (Isolated.record _ _).bind fun _ => .pure false

theorem isolated_conclude (command : Command) (line : String) (result : Except Fault Bool) :
    Isolated (conclude surroundings command line result) := by
  cases result with
  | ok succeeded => exact .pure succeeded
  | error fault =>
      refine (Isolated.record _ _).bind fun _ => ?_
      refine (Isolated.addError _).bind fun _ => ?_
      exact (Isolated.print surroundings false _).bind fun _ => .pure false

theorem isolated_readOptions (command : Command) (options : List String) :
    Isolated (readOptions command options) := by
  unfold readOptions
  split
  · split
    · exact .pure _
    · exact .pure _
    · exact .pure _
  · split
    · exact (Isolated.record _ _).bind fun _ => .pure _
    · exact .pure _

theorem isolated_readScript (file : String) : Isolated (readScript file) := by
  unfold readScript
  refine .get (fun _ _ _ => rfl) fun state => ?_
  split
  · split
    · exact .pure _
    · exact .throw _
  · split
    · exact .pure _
    · exact (Isolated.record _ _).bind fun _ => .pure _

variable (run : Runner) (fuel : Nat)

theorem isolated_runScript (settings : Options.Settings) :
    Isolated (runScript run surroundings settings) := by
  unfold runScript
  refine (isolated_readScript _).bind fun result => ?_
  cases result with
  | error ending => exact .pure ending
  | ok outline => exact (Isolated.record _ _).bind fun _ => .runApart _

theorem isolated_execute_script (profile : Option Profile) (filters : List Filter)
    (options : List String) (block : Option (List Instruction)) :
    Isolated (execute run fuel surroundings ⟨.script, profile, filters, options⟩ block) := by
  unfold execute
  refine (isolated_readOptions _ _).bind fun result => ?_
  cases result with
  | error messages => exact .pure _
  | ok read => exact isolated_runScript surroundings run read.1

theorem isolated_dispatch_script (line : String) (profile : Option Profile) (filters : List Filter)
    (options : List String) (block : Option (List Instruction)) :
    Isolated (dispatch run fuel surroundings line ⟨.script, profile, filters, options⟩ block) := by
  apply Isolated.inFrame
  refine (Isolated.ofModify fun _ _ _ => rfl).bind fun _ => ?_
  have ran : Isolated (runSetup run fuel surroundings ⟨.script, profile, filters, options⟩ block) :=
    (isolated_execute_script surroundings run fuel profile filters options block).bind fun ending =>
      isolated_reportEnding surroundings .script ending
  exact ran.attempt.bind fun result => isolated_conclude surroundings .script line result

/-- Running a script file, which may run further ones, comes to the same whatever the
variables and errors around it are: it ends in the same way, and it leaves the same outputs,
files and new errors. The variables stay as they are, and the new errors are put behind
the ones from before. This is so for the command as such and for its line. -/
theorem script_isolated (line : String) (profile : Option Profile) (filters : List Filter)
    (options : List String) (block : Option (List Instruction)) :
    Isolated (execute (runBlock fuel) fuel surroundings ⟨.script, profile, filters, options⟩ block) ∧
      Isolated (dispatch (runBlock fuel) fuel surroundings line
        ⟨.script, profile, filters, options⟩ block) :=
  ⟨isolated_execute_script surroundings _ fuel profile filters options block,
    isolated_dispatch_script surroundings _ fuel line profile filters options block⟩

end Engine

end Runbook
