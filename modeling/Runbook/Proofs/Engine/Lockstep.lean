import Runbook.Proofs.Engine.Following
import Runbook.Proofs.Run.Lockstep

/-! # Running lines in lockstep

The engine does the same with a block whether or not it shows the lines that it runs,
however deep loops and scripts are nested. Verbosity is handed down in three ways: from a
script to its lines, from a loop to its block, and from the line of a script to what is
in its file. On each of them a run that shows fewer lines goes on to show fewer.
-/

namespace Runbook

open Script (Instruction)

/-! ## Verbosity -/

/-- Surroundings in which scripts show their lines, or do not. -/
def Surroundings.speaking (surroundings : Surroundings) (verbose : Bool) : Surroundings :=
  { surroundings with verbose := verbose }

@[simp] theorem Surroundings.host_speaking (surroundings : Surroundings) (verbose : Bool) :
    (surroundings.speaking verbose).host = surroundings.host := rfl

@[simp] theorem Surroundings.limit_speaking (surroundings : Surroundings) (verbose : Bool) :
    (surroundings.speaking verbose).limit = surroundings.limit := rfl

/-- Of two runs, the second one shows lines only if the first one does. If only the first
one does, what it shows of a line can be spared. -/
inductive Lowers (spare : Bool × String → Bool) : (loud quiet : Bool) → Prop
  | same (verbose : Bool) : Lowers spare verbose verbose
  | lower (raw : ∀ line : String, spare (false, s!"[RAW] {line}") = true)
      (expanded : ∀ line : String, spare (false, s!"[EXP] {line}") = true) : Lowers spare true false

namespace Lowers

variable {spare : Bool × String → Bool} {loud quiet : Bool}

theorem or (lowers : Lowers spare loud quiet) (own : Bool) :
    Lowers spare (own || loud) (own || quiet) := by
  cases own with
  | true => exact .same true
  | false => exact lowers

theorem raw (lowers : Lowers spare loud quiet) {line : String} :
    loud = quiet ∨ quiet = false ∧ spare (false, s!"[RAW] {line}") = true := by
  cases lowers with
  | same => exact .inl rfl
  | lower raw expanded => exact .inr ⟨rfl, raw line⟩

theorem expanded (lowers : Lowers spare loud quiet) {line : String} :
    loud = quiet ∨ quiet = false ∧ spare (false, s!"[EXP] {line}") = true := by
  cases lowers with
  | same => exact .inl rfl
  | lower raw expanded => exact .inr ⟨rfl, expanded line⟩

end Lowers

theorem Surroundings.sayAll_speaking (surroundings : Surroundings) (verbose : Bool)
    (texts : List String) :
    (surroundings.speaking verbose).sayAll texts = surroundings.sayAll texts := by
  induction texts with
  | nil => rfl
  | cons text rest induction =>
      rw [sayAll, sayAll, induction]
      rfl

theorem Surroundings.remarkAll_speaking (surroundings : Surroundings) (verbose : Bool)
    (texts : List String) :
    (surroundings.speaking verbose).remarkAll texts = surroundings.remarkAll texts := by
  induction texts with
  | nil => rfl
  | cons text rest induction =>
      rw [remarkAll, remarkAll, induction]
      rfl

/-! ## Scripts -/

theorem InStep.runApart {spare : Bool × String → Bool} {part other : Run Bool}
    (inStep : InStep spare part other) :
    InStep spare (Engine.runApart part) (Engine.runApart other) := by
  intro loud quiet hushed
  have apart : Hushed spare (loud.showing .empty []) (quiet.showing .empty []) :=
    hushed.showing rfl rfl
  have inner := inStep apart
  rw [Engine.outcome_runApart, Engine.outcome_runApart]
  generalize part.outcome _ = outcome at inner ⊢
  generalize other.outcome _ = reached at inner ⊢
  rcases outcome with ⟨ended, final⟩
  rcases reached with ⟨result, after⟩
  rcases inner with ⟨same, still⟩
  dsimp only at same still
  subst same
  rcases ended with _ | fault | succeeded
  · exact ⟨rfl, still⟩
  · exact ⟨rfl, still.showing hushed.bindings hushed.errors⟩
  · rw [Engine.rejoin, Engine.rejoin, hushed.errors, still.errors]
    exact ⟨rfl, still.showing hushed.bindings rfl⟩

namespace Engine

theorem showAlternatives_speaking (surroundings : Surroundings) (verbose inScript : Bool)
    (error : ScriptError) :
    showAlternatives (surroundings.speaking verbose) inScript error =
      showAlternatives surroundings inScript error := by
  cases error with
  | unknownCommand name => exact surroundings.remarkAll_speaking verbose _
  | _ => rfl

/-- What a command does that runs no lines does not depend on verbosity. -/
theorem perform_speaking {command : Command} (plain : command.runsLines = false) (run : Runner)
    (fuel : Nat) (surroundings : Surroundings) (verbose : Bool) (given : Given)
    (block : Option (List Instruction)) :
    perform run fuel (surroundings.speaking verbose) command given block =
      perform run fuel surroundings command given block := by
  have said := surroundings.sayAll_speaking verbose
  cases command with
  | script | forRange | forEach => contradiction
  | help =>
      simp only [perform, Perform.help, Perform.listCommands, Perform.listProfiles, said]
      rfl
  | listCommands => simp only [perform, Perform.listCommands, said]
  | listProfiles =>
      simp only [perform, Perform.listProfiles, said]
      rfl
  | listScriptCommands => simp only [perform, Perform.listScriptCommands, said]
  | scriptHelp => simp only [perform, Perform.scriptHelp, said]
  | filterHelp =>
      simp only [perform, Perform.filterHelp, said]
      rfl
  | dumpVariables => simp only [perform, Perform.dumpVariables, said]
  | _ => rfl

/-! ## Reports -/

variable {spare : Bool × String → Bool} {surroundings : Surroundings}

section Reports

variable (heedless : surroundings.Heedless spare)
include heedless

/-- A line is shown in both runs, or in the first one only and can be spared. -/
theorem inStep_echo {loud quiet : Bool} {text : String}
    (shown : loud = quiet ∨ quiet = false ∧ spare (false, text) = true) :
    InStep spare (echo surroundings loud text) (echo surroundings quiet text) := by
  rcases shown with rfl | ⟨rfl, spared⟩
  · exact (elementary_echo loud text).inStep heedless
  · cases loud with
    | false => exact .pure ()
    | true => exact .printSpared heedless spared

theorem inStep_report (message : String) :
    InStep spare (report surroundings message) (report surroundings message) :=
  (InStep.addError message).bind fun _ => .print heedless false message

theorem inStep_fail (message : String) :
    InStep spare (fail surroundings message) (fail surroundings message) :=
  (inStep_report heedless message).bind fun _ => .pure false

theorem inStep_refuse (loud quiet inScript : Bool) (error : ScriptError) :
    InStep spare (refuse (surroundings.speaking loud) inScript error)
      (refuse (surroundings.speaking quiet) inScript error) := by
  refine (inStep_report heedless error.message).bind fun _ => ?_
  rw [showAlternatives_speaking, showAlternatives_speaking]
  have shown := (elementary_showAlternatives inScript error).inStep heedless
  exact shown.bind fun _ => .pure false

theorem inStep_reportEnding (command : Command) (ending : Ending) :
    InStep spare (reportEnding surroundings command ending)
      (reportEnding surroundings command ending) := by
  unfold reportEnding
  rcases ending with _ | _ | ⟨message, rest⟩
  · exact .pure true
  · exact (InStep.note _).bind fun _ => .pure false
  · refine (inStep_report heedless _).bind fun _ => ?_
    exact (InStep.note _).bind fun _ => .pure false

theorem inStep_conclude (command : Command) (line : String) (result : Except Fault Bool) :
    InStep spare (conclude surroundings command line result)
      (conclude surroundings command line result) := by
  cases result with
  | ok succeeded => exact .pure succeeded
  | error fault =>
      unfold conclude reportFault
      refine (InStep.note _).bind fun _ => ?_
      refine (InStep.addError _).bind fun _ => ?_
      exact (InStep.print heedless false _).bind fun _ => .pure false

end Reports

/-! ## Lines and blocks -/

section Running

variable {run : Runner}
  (runs : ∀ surroundings : Surroundings, surroundings.Heedless spare →
    ∀ {loud quiet loudly quietly : Bool}, Lowers spare loud quiet → Lowers spare loudly quietly →
      ∀ instructions, InStep spare (run (surroundings.speaking loud) loudly instructions)
        (run (surroundings.speaking quiet) quietly instructions))
  (heedless : surroundings.Heedless spare) {loud quiet : Bool} (lowers : Lowers spare loud quiet)
include runs heedless lowers

theorem inStep_loop (command : Command) (settings : Options.Settings) (block : List Instruction)
    (fuel : Nat) (supply : Supply) :
    InStep spare (loop run (surroundings.speaking loud) command settings block fuel supply)
      (loop run (surroundings.speaking quiet) command settings block fuel supply) := by
  induction fuel generalizing supply with
  | zero => exact .outOfFuel
  | succ fuel induction =>
      unfold loop
      split
      · exact .pure _
      · refine InStep.isStopped.bind fun stopped => ?_
        split
        · exact (InStep.note _).bind fun _ => .pure _
        · refine ((Elementary.setVariable _ _).inStep heedless).bind fun _ => ?_
          refine ((elementary_echo _ _).inStep heedless).bind fun _ => ?_
          have ran := runs surroundings heedless lowers (lowers.or (settings.isOn "verbose")) block
          refine ran.inInnerFrame.bind fun succeeded => ?_
          split
          · exact induction _
          · exact .pure _

theorem inStep_runLoop (fuel : Nat) (command : Command) (settings : Options.Settings)
    (block : Option (List Instruction)) :
    InStep spare (runLoop run fuel (surroundings.speaking loud) command settings block)
      (runLoop run fuel (surroundings.speaking quiet) command settings block) := by
  unfold runLoop
  split
  · exact .pure _
  · refine ((elementary_supplyOf _ _).inStep heedless).bind fun result => ?_
    cases result with
    | error ending => exact .pure _
    | ok supply => exact inStep_loop runs heedless lowers command settings _ fuel supply

theorem inStep_runScript (settings : Options.Settings) :
    InStep spare (runScript run (surroundings.speaking loud) settings)
      (runScript run (surroundings.speaking quiet) settings) := by
  unfold runScript
  refine ((elementary_readScript _).inStep heedless).bind fun result => ?_
  cases result with
  | error ending => exact .pure _
  | ok outline =>
      refine (InStep.note _).bind fun _ => ?_
      have lower := lowers.or (settings.isOn "verbose")
      exact (runs surroundings heedless lower lower outline.instructions).inInnerFrame.runApart

theorem inStep_perform (fuel : Nat) (command : Command) (given : Given)
    (block : Option (List Instruction)) :
    InStep spare (perform run fuel (surroundings.speaking loud) command given block)
      (perform run fuel (surroundings.speaking quiet) command given block) := by
  cases plain : command.runsLines with
  | false =>
      rw [perform_speaking plain, perform_speaking plain]
      exact (elementary_perform plain run fuel given block).inStep heedless
  | true =>
      cases command with
      | script => exact inStep_runScript runs heedless lowers _
      | forRange => exact inStep_runLoop runs heedless lowers fuel _ _ block
      | forEach => exact inStep_runLoop runs heedless lowers fuel _ _ block
      | _ => contradiction

theorem inStep_execute (fuel : Nat) (setup : Setup) (block : Option (List Instruction)) :
    InStep spare (execute run fuel (surroundings.speaking loud) setup block)
      (execute run fuel (surroundings.speaking quiet) setup block) := by
  unfold execute
  refine ((elementary_readOptions _ _).inStep heedless).bind fun result => ?_
  cases result with
  | error messages => exact .pure _
  | ok read => exact inStep_perform runs heedless lowers fuel _ _ block

theorem inStep_dispatch (fuel : Nat) (line : String) (setup : Setup)
    (block : Option (List Instruction)) :
    InStep spare (dispatch run fuel (surroundings.speaking loud) line setup block)
      (dispatch run fuel (surroundings.speaking quiet) line setup block) := by
  apply InStep.inFrame
  refine (InStep.note _).bind fun _ => ?_
  have ran : InStep spare (runSetup run fuel (surroundings.speaking loud) setup block)
      (runSetup run fuel (surroundings.speaking quiet) setup block) :=
    (inStep_execute runs heedless lowers fuel setup block).bind fun ending =>
      inStep_reportEnding heedless setup.command ending
  exact ran.attempt.bind fun result => inStep_conclude heedless _ line result

theorem inStep_runExpanded (fuel : Nat) (line : String) (block : Option (List Instruction)) :
    InStep spare (runExpanded run fuel (surroundings.speaking loud) line block)
      (runExpanded run fuel (surroundings.speaking quiet) line block) := by
  unfold runExpanded
  split
  · exact (inStep_fail heedless _).bind fun _ => .pure _
  · refine .get fun left right hushed => ?_
    rw [hushed.files]
    refine ((Elementary.ofLogged _).inStep heedless).bind fun resolution => ?_
    cases resolution with
    | refused error =>
        exact (inStep_refuse heedless loud quiet true error).bind fun _ => .pure _
    | help command => exact (InStep.print heedless true _).bind fun _ => .pure _
    | ready setup =>
        exact (inStep_dispatch runs heedless lowers fuel line setup _).bind fun _ => .pure _

theorem inStep_runLine {loudly quietly : Bool} (shown : Lowers spare loudly quietly) (fuel : Nat)
    (line : String) (block : Option (List Instruction)) :
    InStep spare (runLine run fuel (surroundings.speaking loud) loudly line block)
      (runLine run fuel (surroundings.speaking quiet) quietly line block) := by
  unfold runLine
  refine (InStep.note _).bind fun _ => ?_
  refine InStep.bind (inStep_echo heedless shown.raw) fun _ => ?_
  refine .get fun left right hushed => ?_
  rw [hushed.bindings]
  simp only [Surroundings.host_speaking, Surroundings.limit_speaking]
  split
  · exact .throw _
  · exact (inStep_fail heedless _).bind fun _ => .pure _
  · refine InStep.bind (inStep_echo heedless shown.expanded) fun _ => ?_
    exact inStep_runExpanded runs heedless lowers fuel _ block

omit runs heedless lowers in
theorem inStep_unlessStopped {part other : Run Bool} (inStep : InStep spare part other) :
    InStep spare (unlessStopped part) (unlessStopped other) := by
  unfold unlessStopped
  refine InStep.isStopped.bind fun stopped => ?_
  split
  · exact (InStep.note _).bind fun _ => .pure _
  · exact inStep

theorem inStep_runItems {loudly quietly : Bool} (shown : Lowers spare loudly quietly) (fuel : Nat)
    (previous : Option String) (instructions : List Instruction) :
    InStep spare (runItems run fuel (surroundings.speaking loud) loudly previous instructions)
      (runItems run fuel (surroundings.speaking quiet) quietly previous instructions) := by
  induction previous, instructions using runItems.induct with
  | case1 =>
      rw [runItems, runItems]
      exact .pure true
  | case2 =>
      rw [runItems, runItems]
      exact inStep_unlessStopped (inStep_fail heedless _)
  | case3 previous text rest afterBlock afterLine =>
      rw [runItems_line, runItems_line]
      apply inStep_unlessStopped
      have ran := inStep_runLine runs heedless lowers shown fuel text (blockAt rest)
      refine ran.bind fun result => ?_
      unfold goOn
      split
      · exact .pure false
      · split
        · cases rest with
          | nil =>
              rw [List.tail_nil, runItems, runItems]
              exact .pure true
          | cons _ rest => exact afterBlock
        · exact afterLine

end Running

/-- A block is run in lockstep with itself, whether or not its lines are shown. -/
theorem inStep_runBlock (fuel : Nat) (heedless : surroundings.Heedless spare)
    {loud quiet loudly quietly : Bool} (lowers : Lowers spare loud quiet)
    (shown : Lowers spare loudly quietly) (instructions : List Instruction) :
    InStep spare (runBlock fuel (surroundings.speaking loud) loudly instructions)
      (runBlock fuel (surroundings.speaking quiet) quietly instructions) := by
  induction fuel generalizing surroundings loud quiet loudly quietly instructions with
  | zero => exact .outOfFuel
  | succ fuel induction =>
      have runs := fun (around : Surroundings) (heedless : around.Heedless spare)
        {loud quiet loudly quietly : Bool} (lowers : Lowers spare loud quiet)
        (shown : Lowers spare loudly quietly) => induction heedless lowers shown
      exact inStep_runItems runs heedless lowers shown fuel none instructions

end Engine

end Runbook
