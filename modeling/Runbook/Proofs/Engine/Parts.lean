import Runbook.Engine
import Runbook.Proofs.Run.Commands

/-! # Elementary parts of the engine

What the engine does between the lines that it runs is elementary: reading options,
values and scripts, and running any command that runs no lines of its own. A script has
variables and errors of its own, but it starts in the state of its line all the same.
-/

namespace Runbook

namespace Engine

variable {surroundings : Surroundings}

theorem elementary_supplyOf (command : Command) (settings : Options.Settings) :
    Elementary surroundings EndsUnreported (supplyOf command settings) := by
  unfold supplyOf
  split
  · dsimp only
    split
    · exact .pure (endsUnreported_error _)
    · exact .pure (endsUnreported_ok _)
  · refine (Perform.elementary_valueOf _).bind fun result unreported => ?_
    rcases result with ending | ⟨text⟩ | elements
    · refine .pure ?_
      rintro _ ⟨⟩
      exact unreported ending rfl
    · exact .pure (endsUnreported_ok _)
    · exact .pure (endsUnreported_ok _)

theorem elementary_readScript (file : String) :
    Elementary surroundings EndsUnreported (readScript file) := by
  unfold readScript
  refine .get (fun _ => rfl) fun state => ?_
  split
  · split
    · exact .pure (endsUnreported_error _)
    · exact .throw _
  · split
    · exact .pure (endsUnreported_error _)
    · exact (Elementary.record _ _).bind fun _ _ => .pure (endsUnreported_ok _)

theorem elementary_readOptions (command : Command) (options : List String) :
    Elementary surroundings (fun result => ∀ messages, result = .error messages → messages ≠ [])
      (readOptions command options) := by
  unfold readOptions
  split
  · split
    · exact .pure fun _ equal => by contradiction
    · refine .pure ?_
      rintro _ ⟨⟩
      simp
    · refine .pure ?_
      rintro _ ⟨⟩
      simp
  · split
    · exact (Elementary.record _ _).bind fun _ _ => .pure fun _ equal => by contradiction
    · exact .pure fun _ equal => by contradiction

theorem elementary_echo (wanted : Bool) (text : String) :
    Elementary surroundings (fun _ => True) (echo surroundings wanted text) := by
  unfold echo
  split
  · exact Elementary.remark text
  · exact .pure trivial

theorem elementary_showAlternatives (inScript : Bool) (error : ScriptError) :
    Elementary surroundings (fun _ => True) (showAlternatives surroundings inScript error) := by
  unfold showAlternatives
  split
  · exact Elementary.remarkAll _
  · refine .get (fun _ => rfl) fun state => ?_
    refine (Elementary.ofLogged _).bind fun profiles _ => ?_
    exact Elementary.remark _
  · split
    · exact Elementary.remark _
    · exact .pure trivial
  · exact .pure trivial

theorem elementary_perform {command : Command} (plain : command.runsLines = false) (run : Runner)
    (fuel : Nat) (given : Given) (block : Option (List Script.Instruction)) :
    Elementary surroundings Ending.Unreported
      (perform run fuel surroundings command given block) := by
  cases command with
  | script | forRange | forEach => contradiction
  | echo => exact Perform.elementary_echo given
  | filterHelp => exact Perform.elementary_filterHelp given
  | help => exact Perform.elementary_help
  | listCommands => exact Perform.elementary_listCommands
  | listProfiles => exact Perform.elementary_listProfiles _
  | listScriptCommands => exact Perform.elementary_listScriptCommands
  | run => exact Perform.elementary_run given
  | scriptHelp => exact Perform.elementary_scriptHelp given
  | calculate => exact Perform.elementary_calculate given
  | deleteDirectory => exact Perform.elementary_deleteDirectory given
  | dumpVariables => exact Perform.elementary_dumpVariables
  | flatten => exact Perform.elementary_flatten given
  | listDirectories => exact Perform.elementary_listEntries _ given _ _
  | listFiles => exact Perform.elementary_listEntries _ given _ _
  | readLines => exact Perform.elementary_readLines _ given
  | replace => exact Perform.elementary_replace _ given
  | replaceExtension => exact Perform.elementary_replaceExtension given
  | set => exact Perform.elementary_set given
  | split => exact Perform.elementary_split _ given
  | unset => exact Perform.elementary_unset given

end Engine

/-! ## Scripts -/

/-- The state with other variables and errors. -/
def State.showing (bindings : Variables) (errors : List String) (state : State) : State :=
  { state with bindings := bindings, errors := errors }

namespace Engine

/-- How instructions with variables of their own have ended, for those who have others. -/
def rejoin (outer : State) :
    Option (Except Fault Bool) × State → Option (Except Fault Ending) × State
  | (none, inner) => (none, inner)
  | (some (.error fault), inner) =>
      (some (.error fault), inner.showing outer.bindings outer.errors)
  | (some (.ok succeeded), inner) =>
      (some (.ok (if succeeded && inner.errors.isEmpty then .done else .failed [])),
        inner.showing outer.bindings (outer.errors ++ inner.errors))

theorem outcome_runApart (part : Run Bool) (state : State) :
    (runApart part).outcome state = rejoin state (part.outcome (state.showing .empty [])) := by
  unfold runApart
  simp only [Run.outcome_bind, Run.outcome_get, Run.proceed, Run.outcome_set,
    Run.outcome_attempt]
  change _ = rejoin state (part.outcome { state with bindings := .empty, errors := [] })
  rcases part.outcome _ with ⟨_ | fault | succeeded, inner⟩
  · rfl
  · rfl
  · simp only [Option.map_some, Run.outcome_bind, Run.outcome_set, Run.proceed, rejoin]
    split
    · rfl
    · rfl

end Engine

end Runbook
