import Runbook.Proofs.Run.Outcome
import Runbook.Engine

/-! # Understanding a line, and doing what it asks for

A line is understood before anything is done about it: it is expanded, split into tokens
and resolved. What it then comes to depends only on the text that it was expanded to and
on what that text was resolved to. A line that cannot even be split is refused like any
other, because nothing is listed after the report of such an error.
-/

namespace Runbook.Engine

open Script (Instruction)

/-- What an expanded line asks for. -/
def resolve (surroundings : Surroundings) (expanded : String) : Run Resolution := do
  match Tokens.split expanded with
  | .error fault => return .refused (.ofTokens expanded fault)
  | .ok tokens =>
      let files := (← get).files
      Run.ofLogged (Resolution.ofTokens surroundings.characters surroundings.profiles files true
        tokens)

/-- What a line is expanded to, and what it asks for. -/
def understand (surroundings : Surroundings) (verbose : Bool) (line : String) :
    Run (String × Resolution) := do
  modify (State.note (.began line))
  echo surroundings verbose s!"[RAW] {line}"
  match (← get).bindings.expand surroundings.host surroundings.limit line with
  | .error (.incomparableLimit type) =>
      throw (.type (Variables.ExpansionError.incomparableLimit type).message)
  | .error error => return (line, .refused (.ofExpansion error))
  | .ok expanded =>
      echo surroundings verbose s!"[EXP] {expanded}"
      return (expanded, ← resolve surroundings expanded)

/-- The block that a command is given, of the one that stands below its line. -/
def claimed (command : Command) (below : Option (List Instruction)) : Option (List Instruction) :=
  if command.takesBlock then below else none

theorem isSome_claimed (command : Command) (below : Option (List Instruction)) :
    (claimed command below).isSome = (below.isSome && command.takesBlock) := by
  cases takes : command.takesBlock with
  | false => simp [claimed, takes]
  | true => simp [claimed, takes]

/-- Do what a line asks for. -/
def carryOut (run : Runner) (fuel : Nat) (surroundings : Surroundings)
    (below : Option (List Instruction)) : String × Resolution → Run LineResult
  | (_, .refused error) => return ⟨← refuse surroundings true error, false⟩
  | (_, .help command) => do
      surroundings.say (command.helpScreen true true)
      return ⟨true, (claimed command below).isSome⟩
  | (expanded, .ready setup) => do
      let block := claimed setup.command below
      return ⟨← dispatch run fuel surroundings expanded setup block, block.isSome⟩

theorem refuse_ofTokens (surroundings : Surroundings) (line : String) (fault : Tokens.Fault) :
    refuse surroundings true (.ofTokens line fault) =
      fail surroundings (ScriptError.ofTokens line fault).message := rfl

section Lines

variable (run : Runner) (fuel : Nat) (surroundings : Surroundings)

theorem runExpanded_eq (expanded : String) (below : Option (List Instruction)) :
    runExpanded run fuel surroundings expanded below =
      resolve surroundings expanded >>= fun resolution =>
        carryOut run fuel surroundings below (expanded, resolution) := by
  unfold runExpanded resolve
  cases Tokens.split expanded with
  | error fault => rw [pure_bind, carryOut, refuse_ofTokens]
  | ok tokens =>
      rw [bind_assoc]
      refine bind_congr fun state => bind_congr fun resolution => ?_
      cases resolution with
      | refused error => rfl
      | help command =>
          rw [carryOut, isSome_claimed]
      | ready setup => rfl

/-- A line is understood, and then what it asks for is done. -/
theorem runLine_eq (verbose : Bool) (line : String) (below : Option (List Instruction)) :
    runLine run fuel surroundings verbose line below =
      understand surroundings verbose line >>= carryOut run fuel surroundings below := by
  unfold runLine understand
  simp only [bind_assoc]
  refine bind_congr fun _ => bind_congr fun _ => bind_congr fun state => ?_
  cases state.bindings.expand surroundings.host surroundings.limit line with
  | error error =>
      cases error with
      | incomparableLimit type => rfl
      | tooDeep limit text => rfl
      | cyclic text => rfl
  | ok expanded =>
      simp only [bind_assoc, pure_bind, runExpanded_eq]

end Lines

end Runbook.Engine
