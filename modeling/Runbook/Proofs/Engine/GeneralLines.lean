import Runbook.Proofs.Engine.Echoing
import Runbook.Proofs.Engine.Lockstep
import Runbook.Proofs.Logged

/-! # General lines inside and outside of scripts

A line can be run in a script or on its own, and the program has a way of its own to do
each. A line in which no reference starts, and which asks for a command that is known
everywhere, comes to the same in both ways, whatever goes wrong with it. In a script more
commands are known, so what has to be shown is that a line like that never leads to a
report that lists them.
-/

namespace Runbook

open Script (Instruction)

/-! ## What general lines come to -/

theorem Logged.Gives.returns {α : Type} {post : α → Prop} {computation : Logged α}
    (gives : Logged.Gives post computation) : Returns post (Run.ofLogged computation) := by
  intro state value final ended
  rw [Run.outcome_ofLogged, Prod.mk.injEq, Option.some.injEq] at ended
  exact gives (Prod.ext ended.1 rfl)

/-- What is listed after the report of such an error is the same in a script and outside
of any. -/
def ScriptError.IsGeneral : ScriptError → Prop
  | .unknownCommand _ => False
  | .missingProfile name => Command.find? true name = Command.find? false name
  | _ => True

/-- What an error, if there is one, leads to is the same in a script and outside of any. -/
def FailsGenerally {α : Type} (result : Except ScriptError α) : Prop :=
  ∀ error, result = .error error → error.IsGeneral

theorem failsGenerally_ok {α : Type} (value : α) :
    FailsGenerally (.ok value : Except ScriptError α) := by
  rintro error ⟨⟩

theorem failsGenerally_error {α : Type} {error : ScriptError} (general : error.IsGeneral) :
    FailsGenerally (.error error : Except ScriptError α) := by
  rintro _ ⟨⟩
  exact general

theorem FailsGenerally.map {α β : Type} {result : Except ScriptError α}
    (general : FailsGenerally result) (change : α → β) : FailsGenerally (result.map change) := by
  cases result with
  | error error => exact failsGenerally_error (general error rfl)
  | ok value => exact failsGenerally_ok _

namespace Filter

variable (characters : Pattern.CharacterNames)

theorem failsGenerally_refuse {α : Type} (kind : FilterKind) (problem : String) :
    FailsGenerally (refuse kind problem : Except ScriptError α) :=
  failsGenerally_error trivial

theorem failsGenerally_readOptions (kind : FilterKind) (options : List String) :
    FailsGenerally (readOptions kind options) := by
  unfold readOptions
  split
  · exact failsGenerally_ok _
  · exact failsGenerally_refuse _ _
  · exact failsGenerally_refuse _ _

theorem gives_patternOf (kind : FilterKind) (text : String) :
    Logged.Gives FailsGenerally (patternOf characters kind text) := by
  unfold patternOf
  split
  · exact .pure (failsGenerally_ok _)
  · split
    · exact .pure (failsGenerally_refuse _ _)
    · exact .throw _

theorem gives_actionOf (files : Files.FileSystem) (kind : FilterKind)
    (settings : Options.Settings) :
    Logged.Gives FailsGenerally (actionOf characters files kind settings) := by
  unfold actionOf
  cases kind with
  | grep => exact (gives_patternOf _ _ _).bind fun _ general => .pure (general.map _)
  | replace =>
      dsimp only
      split
      · exact (gives_patternOf _ _ _).bind fun _ general => .pure (general.map _)
      · exact .pure (failsGenerally_ok _)
  | tee =>
      refine .after fun isDirectory => ?_
      split
      · exact .pure (failsGenerally_refuse _ _)
      · exact .pure (failsGenerally_ok _)

theorem gives_configure (files : Files.FileSystem) (tokens : List String) :
    Logged.Gives FailsGenerally (configure characters files tokens) := by
  unfold configure
  split
  · exact .pure (failsGenerally_error trivial)
  · split
    · exact .pure (failsGenerally_error trivial)
    · have read := failsGenerally_readOptions
      split
      · exact .pure (failsGenerally_error (read _ _ _ ‹_›))
      · refine (gives_actionOf _ _ _ _).bind fun result general => ?_
        cases result with
        | error error => exact .pure (failsGenerally_error (general error rfl))
        | ok action => exact .after fun _ => .pure (failsGenerally_ok _)

end Filter

namespace Resolution

variable {characters : Pattern.CharacterNames} {command : Command} {profiles : Profiles}
  {files : Files.FileSystem}

/-- What is asked for has to do with a command, and what an error leads to is the same in
a script and outside of any. -/
def Concerns (command : Command) : Resolution → Prop
  | .ready setup => setup.command = command
  | .help asked => asked = command
  | .refused error => error.IsGeneral

theorem gives_configureAll (specifications : List (List String)) :
    Logged.Gives FailsGenerally (configureAll characters files specifications) := by
  induction specifications with
  | nil => exact .pure (failsGenerally_ok _)
  | cons tokens rest induction =>
      unfold configureAll
      refine (Filter.gives_configure _ files tokens).bind fun result general => ?_
      cases result with
      | error error => exact .pure (failsGenerally_error (general error rfl))
      | ok filter => exact induction.bind fun _ general => .pure (general.map _)

theorem gives_filtersFor (tokens : List String) :
    Logged.Gives FailsGenerally (filtersFor characters files command tokens) := by
  unfold filtersFor
  dsimp only
  split
  · exact .pure (failsGenerally_ok _)
  · split
    · exact .pure (failsGenerally_error trivial)
    · exact gives_configureAll _

section General

variable (general : Command.find? true command.name = Command.find? false command.name)
include general

theorem gives_takeProfile (tokens : List String) :
    Logged.Gives FailsGenerally (takeProfile profiles files command tokens) := by
  unfold takeProfile
  split
  · exact .pure (failsGenerally_ok _)
  · split
    · exact .pure (failsGenerally_error general)
    · split
      · exact .pure (failsGenerally_error general)
      · refine .after fun profile => ?_
        split
        · exact .pure (failsGenerally_error trivial)
        · exact .pure (failsGenerally_ok _)

theorem gives_ofCommand (tokens : List String) :
    Logged.Gives (Concerns command) (ofCommand characters profiles files command tokens) := by
  unfold ofCommand
  split
  · exact .pure rfl
  · refine (gives_takeProfile general tokens).bind fun taken refused => ?_
    rcases taken with error | ⟨profile, tokens⟩
    · exact .pure (refused error rfl)
    · refine (gives_filtersFor tokens).bind fun filters refused => ?_
      cases filters with
      | error error => exact .pure (refused error rfl)
      | ok filters => exact .after fun _ => .pure rfl

end General

end Resolution

namespace Engine

theorem refuse_of_isGeneral {error : ScriptError} (general : error.IsGeneral)
    (surroundings : Surroundings) :
    refuse surroundings true error = refuse surroundings false error := by
  cases error with
  | unknownCommand name => contradiction
  | missingProfile name =>
      rw [ScriptError.IsGeneral] at general
      simp only [refuse, showAlternatives, general]
  | _ => rfl

end Engine

/-! ## General lines -/

theorem Command.find?_of_general : ∀ command ∈ general, ∀ inScript,
    find? inScript command.name = some command := by
  decide

theorem Command.takesBlock_of_general : ∀ command ∈ general, command.takesBlock = false := by
  decide

/-- A line in which no reference starts and that, if it can be split into tokens, asks for
a command that is known everywhere. There is something on it, but no blanks around that. -/
structure IsGeneralLine (line : String) : Prop where
  nonempty : line ≠ ""
  stripped : Text.strip line.toList = line.toList
  unreferring : Unreferring line.toList
  general : ∀ tokens, Tokens.split line = .ok tokens →
    ∃ command ∈ Command.general, tokens.head? = some command.name

/-- A general line asks for the same in a script and outside of any. -/
theorem IsGeneralLine.resolves {line : String} (isGeneral : IsGeneralLine line)
    {tokens : List String} (split : Tokens.split line = .ok tokens)
    (characters : Pattern.CharacterNames) (profiles : Profiles) (files : Files.FileSystem) :
    ∃ command ∈ Command.general, ∃ rest, ∀ inScript,
      Resolution.ofTokens characters profiles files inScript tokens =
        Resolution.ofCommand characters profiles files command rest := by
  rcases isGeneral.general tokens split with ⟨command, member, first⟩
  rcases List.head?_eq_some_iff.mp first with ⟨rest, rfl⟩
  refine ⟨command, member, rest, fun inScript => ?_⟩
  rw [Resolution.ofTokens, Command.find?_of_general command member]

/-- To watchers it makes no difference what happens besides the outputs. -/
def Surroundings.ShowOutputsOnly (surroundings : Surroundings) : Prop :=
  ∀ stdout text earlier later,
    earlier.filterMap Event.output? = later.filterMap Event.output? →
      surroundings.stopsAt ⟨stdout, text, earlier⟩ = surroundings.stopsAt ⟨stdout, text, later⟩

/-- If nothing can be spared, the same can be seen of both states. -/
theorem Hushed.view {loud quiet : State} (hushed : Hushed (fun _ => false) loud quiet) :
    loud.view = quiet.view := by
  have printed := hushed.printed.eq_of_unspared fun _ => rfl
  rw [State.view, State.view, View.mk.injEq]
  exact ⟨printed.symm, hushed.errors, hushed.bindings, hushed.files⟩

theorem Surroundings.ShowOutputsOnly.heedless {surroundings : Surroundings}
    (outputs : surroundings.ShowOutputsOnly) : surroundings.Heedless fun _ => false where
  same := fun loud quiet hushed stdout text => by
    have printed := congrArg View.printed hushed.view
    apply outputs stdout text
    simpa [State.view, State.events, List.filterMap_reverse] using printed
  calm := fun _ _ spared => by contradiction

namespace Engine

variable {surroundings : Surroundings} {line : String}

theorem inStep_dispatch_self {spare : Bool × String → Bool}
    (heedless : surroundings.Heedless spare) (fuel : Nat) (line : String) (setup : Setup)
    (block : Option (List Instruction)) :
    InStep spare (dispatch (runBlock fuel) fuel surroundings line setup block)
      (dispatch (runBlock fuel) fuel surroundings line setup block) :=
  inStep_dispatch (fun _ heedless _ _ _ _ lowers shown => inStep_runBlock fuel heedless lowers shown)
    heedless (.same surroundings.verbose) fuel line setup block

/-- Do what a line outside of scripts asks for. -/
def carryOutAlone (fuel : Nat) (surroundings : Surroundings) (line : String) :
    Resolution → Run Bool
  | .refused error => refuse surroundings false error
  | .help command => do
      surroundings.say (command.helpScreen true true)
      return true
  | .ready setup => dispatch (runBlock fuel) fuel surroundings line setup none

/-- What is asked for is done in the same way. No general command takes a block. -/
theorem inStep_carryOut {spare : Bool × String → Bool} (heedless : surroundings.Heedless spare)
    {command : Command} (general : command ∈ Command.general) {resolution : Resolution}
    (concerns : resolution.Concerns command) (fuel : Nat) (below : Option (List Instruction)) :
    InStep spare (carryOut (runBlock fuel) fuel surroundings below (line, resolution))
      (carryOutAlone fuel surroundings line resolution >>= fun succeeded =>
        pure ⟨succeeded, false⟩) := by
  have blockless := Command.takesBlock_of_general command general
  cases resolution with
  | refused error =>
      rw [carryOut, carryOutAlone, refuse_of_isGeneral concerns]
      exact (inStep_refuse heedless surroundings.verbose surroundings.verbose false error).bind
        fun _ => .pure _
  | help asked =>
      subst concerns
      rw [carryOut, carryOutAlone, claimed, blockless, if_neg Bool.false_ne_true]
      exact (InStep.print heedless true _).bind fun _ => .pure _
  | ready setup =>
      subst concerns
      rw [carryOut, carryOutAlone, claimed, blockless, if_neg Bool.false_ne_true]
      exact (inStep_dispatch_self heedless fuel line setup none).bind fun _ => .pure _

section GeneralLines

variable (outputs : surroundings.ShowOutputsOnly) (isGeneral : IsGeneralLine line) (fuel : Nat)
  (below : Option (List Instruction))
include outputs isGeneral

theorem inStep_runExpanded_runCommandLine :
    InStep (fun _ => false) (runExpanded (runBlock fuel) fuel surroundings line below)
      (runCommandLine fuel surroundings line >>= fun succeeded => pure ⟨succeeded, false⟩) := by
  have heedless := outputs.heedless
  have nonempty : ¬(line == "") = true := by simpa using isGeneral.nonempty
  rw [runExpanded_eq, resolve, runCommandLine, isGeneral.stripped, String.ofList_toList,
    if_neg nonempty]
  cases split : Tokens.split line with
  | error fault =>
      rw [pure_bind, carryOut, refuse_ofTokens]
      exact (inStep_fail heedless _).bind fun _ => .pure _
  | ok tokens =>
      rw [bind_assoc, bind_assoc]
      refine .get fun loud quiet hushed => ?_
      rcases isGeneral.resolves split surroundings.characters surroundings.profiles loud.files with
        ⟨command, member, rest, resolves⟩
      have known := Command.find?_of_general command member
      have gives : Logged.Gives (Resolution.Concerns command)
          (Resolution.ofCommand surroundings.characters surroundings.profiles loud.files command
            rest) :=
        Resolution.gives_ofCommand ((known true).trans (known false).symm) rest
      dsimp only
      rw [← hushed.files, resolves, resolves, bind_assoc]
      refine InStep.bind_of_returns ((Elementary.ofLogged _).inStep heedless) gives.returns
        fun resolution concerns => ?_
      exact inStep_carryOut heedless member concerns fuel below

theorem inStep_runLine_runCommandLine :
    InStep (fun _ => false) (runLine (runBlock fuel) fuel surroundings false line below)
      (runCommandLine fuel surroundings line >>= fun succeeded => pure ⟨succeeded, false⟩) := by
  have expands (state : State) :
      state.bindings.expand surroundings.host surroundings.limit line = .ok line :=
    Variables.expand_eq_self isGeneral.unreferring.plain isGeneral.unreferring.plainHost
  unfold runLine
  apply InStep.noteUnseen _ rfl
  simp only [expands]
  exact inStep_runExpanded_runCommandLine outputs isGeneral fuel below

/-- From the same state, a general line is run in a script that does not show its lines,
and on its own. Both runs come to an end or neither does. They end in the same way, and
everything that can be seen of them is the same. -/
theorem runLine_agrees_with_runCommandLine (state : State) :
    Option.Rel (fun inside outside =>
        inside.1 = outside.1.map (fun succeeded => ⟨succeeded, false⟩) ∧
          inside.2.view = outside.2.view)
      ((runLine (runBlock fuel) fuel surroundings false line below).run state)
      ((runCommandLine fuel surroundings line).run state) := by
  have inStep := inStep_runLine_runCommandLine outputs isGeneral fuel below
  have related := inStep.run (.refl _ state) fun _ _ hushed => hushed.view
  rw [Run.run_bind_pure] at related
  generalize (runLine _ _ _ _ _ _).run state = inside at related ⊢
  generalize (runCommandLine _ _ _).run state = outside at related ⊢
  cases outside with
  | none =>
      cases related with
      | none => exact .none
  | some outside =>
      cases related with
      | some related => exact .some related

end GeneralLines

theorem isGeneralLine_script : IsGeneralLine "script --file inner" where
  nonempty := by decide
  stripped := by decide +kernel
  unreferring := .of_not_mem (by decide)
  general := by
    have split : Tokens.split "script --file inner" = .ok ["script", "--file", "inner"] := by
      decide +kernel
    intro tokens same
    rw [split] at same
    cases same
    exact ⟨.script, by decide, rfl⟩

theorem runLine_agrees_with_runCommandLine_failing :
    ∃ inside outside,
      (runLine (runBlock 5) 5 bareSurroundings false "script --file inner" none).run nestedState =
          some (.ok ⟨false, false⟩, inside) ∧
        (runCommandLine 5 bareSurroundings "script --file inner").run nestedState =
            some (.ok false, outside) ∧
          inside.view = outside.view := by
  have outputs : bareSurroundings.ShowOutputsOnly := fun _ _ _ _ _ => rfl
  have agree :=
    runLine_agrees_with_runCommandLine outputs isGeneralLine_script 5 none nestedState
  have failed : ((runCommandLine 5 bareSurroundings "script --file inner").run
      nestedState).map (fun ended => ended.1.toOption) = some (some false) := by
    decide +kernel
  rcases Run.exists_run_eq_ok failed with ⟨outside, ran⟩
  rw [ran] at agree ⊢
  generalize (runLine _ _ _ _ _ _).run nestedState = reached at agree ⊢
  cases agree with
  | @some ended _ agree =>
      rcases ended with ⟨result, inside⟩
      rcases agree with ⟨same, seen⟩
      dsimp only at same
      subst same
      exact ⟨inside, outside, rfl, rfl, seen⟩

end Engine

end Runbook
