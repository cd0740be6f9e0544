import Runbook.Perform
import Runbook.Resolution
import Runbook.Script.Layout

/-!
Running instructions. The lines of a block run one after the other until one of
them fails. A loop runs the block below its line once for each of its values, and
a command that runs a script runs its instructions with variables of their own.
-/

namespace Runbook

open Script (Instruction)

/-- A way to run the instructions of a block, with or without showing each line. -/
abbrev Runner := Surroundings → (verbose : Bool) → List Instruction → Run Bool

namespace Engine

/-! ## Reports -/

def report (surroundings : Surroundings) (message : String) : Run Unit := do
  Run.addError message
  surroundings.remark message

def fail (surroundings : Surroundings) (message : String) : Run Bool := do
  report surroundings message
  return false

def echo (surroundings : Surroundings) (wanted : Bool) (text : String) : Run Unit :=
  if wanted then surroundings.remark text else return ()

/-- What is shown after the report of a line that asks for nothing that can be done. -/
def showAlternatives (surroundings : Surroundings) (inScript : Bool) :
    ScriptError → Run Unit
  | .unknownCommand _ =>
      surroundings.remarkAll
        ("Known commands:" :: (Command.knownNames inScript).map ("  " ++ ·))
  | .unknownProfile _ => do
      let profiles ← Run.ofLogged (surroundings.profiles.list (← get).files)
      let names :=
        if profiles.isEmpty then "<none>" else ", ".intercalate (profiles.map (·.name))
      surroundings.remark s!"Available environments: {names}"
  | .missingProfile name =>
      match Command.find? inScript name with
      | some command => surroundings.remark (command.helpScreen false true)
      | none => return ()
  | _ => return ()

def refuse (surroundings : Surroundings) (inScript : Bool) (error : ScriptError) : Run Bool := do
  report surroundings error.message
  showAlternatives surroundings inScript error
  return false

/-! ## Loops -/

/-- The values that a loop has yet to run through: the rest of a list, or numbers
that grow by a step. `current` is one step behind the next number. -/
inductive Supply
  | listed (values : List String)
  | counted (current upper step : Double)
  deriving DecidableEq, Repr

def Supply.next? : Supply → Option (String × Supply)
  | .listed [] => none
  | .listed (value :: rest) => some (value, .listed rest)
  | .counted current upper step =>
      let next := current + step
      if next.lt upper then some (Number.writeResult next, .counted next upper step) else none

/-- The numbers from a lower bound up to an upper bound, which is left out. -/
def Supply.range (lower upper step : Double) : Supply := .counted (lower - step) upper step

def supplyOf (command : Command) (settings : Options.Settings) :
    Run (Except Runbook.Ending Supply) := do
  if command == .forRange then
    let step := settings.number "step"
    if step.le (.ofNat 0) then
      return .error (.failed [s!"Step must be positive: {Number.writeResult step}"])
    else return .ok (.range (settings.number "lower") (settings.number "upper") step)
  else
    match ← Perform.valueOf (settings.text "iterate") with
    | .error ending => return .error ending
    | .ok (.array elements) => return .ok (.listed elements)
    | .ok (.scalar text) => return .ok (.listed [text])

def labelOf (command : Command) : String := if command == .forRange then "FOR" else "FOREACH"

def loop (run : Runner) (surroundings : Surroundings) (command : Command)
    (settings : Options.Settings) (block : List Instruction) :
    (fuel : Nat) → Supply → Run Runbook.Ending
  | 0, _ => Run.outOfFuel
  | fuel + 1, supply => do
      match supply.next? with
      | none => return .done
      | some (value, rest) =>
          if ← Run.isStopped then
            Run.record .info s!"{command.name} stopped"
            return .done
          else
            Run.setVariable (settings.text "dest") (.scalar value)
            let verbose := settings.isOn "verbose"
            echo surroundings verbose s!"[{labelOf command}] {value}"
            let succeeded ← Run.inInnerFrame
              (run surroundings (verbose || surroundings.verbose) block)
            if succeeded then loop run surroundings command settings block fuel rest
            else return .failed []

def runLoop (run : Runner) (fuel : Nat) (surroundings : Surroundings) (command : Command)
    (settings : Options.Settings) (block : Option (List Instruction)) : Run Runbook.Ending := do
  match block with
  | none => Perform.fail s!"Command '{command.name}' requires a nested block!"
  | some block =>
      match ← supplyOf command settings with
      | .error ending => return ending
      | .ok supply => loop run surroundings command settings block fuel supply

/-! ## Scripts -/

/-- Run instructions with variables of their own. The errors that they cause are
added to those recorded before. -/
def runApart (part : Run Bool) : Run Runbook.Ending := do
  let outer ← get
  set { outer with bindings := .empty, errors := [] }
  let result ← Run.attempt part
  let inner ← get
  match result with
  | .error fault =>
      set { inner with bindings := outer.bindings, errors := outer.errors }
      throw fault
  | .ok succeeded =>
      set { inner with bindings := outer.bindings, errors := outer.errors ++ inner.errors }
      if succeeded && inner.errors.isEmpty then return .done else return .failed []

def readScript (file : String) : Run (Except Runbook.Ending Script.Outline) := do
  match (← get).files.readText (Files.Path.tidy file) with
  | .error fault =>
      if fault.isSystem then
        return .error (.failed [s!"Failed to read script '{file}': {fault.message}"])
      else throw fault
  | .ok text =>
      match Script.ofFileText text with
      | .error error => return .error (.failed [error.message])
      | .ok outline =>
          Run.record .debug
            s!"Parsed {outline.entryCount} instructions in {outline.blocks.length} blocks"
          return .ok outline

def runScript (run : Runner) (surroundings : Surroundings) (settings : Options.Settings) :
    Run Runbook.Ending := do
  let file := settings.text "file"
  match ← readScript file with
  | .error ending => return ending
  | .ok outline =>
      Run.record .info s!"Running script: {file}"
      let verbose := settings.isOn "verbose" || surroundings.verbose
      runApart (Run.inInnerFrame
        (run { surroundings with verbose := verbose } verbose outline.instructions))

/-! ## Commands -/

def perform (run : Runner) (fuel : Nat) (surroundings : Surroundings) (command : Command)
    (given : Given) (block : Option (List Instruction)) : Run Runbook.Ending :=
  match command with
  | .echo => Perform.echo surroundings given
  | .filterHelp => Perform.filterHelp surroundings given
  | .help => Perform.help surroundings
  | .listCommands => Perform.listCommands surroundings
  | .listProfiles => Perform.listProfiles surroundings (given.settings.isOn "verbose")
  | .listScriptCommands => Perform.listScriptCommands surroundings
  | .run => Perform.run surroundings given
  | .script => runScript run surroundings given.settings
  | .scriptHelp => Perform.scriptHelp surroundings given
  | .calculate => Perform.calculate given
  | .deleteDirectory => Perform.deleteDirectory given
  | .dumpVariables => Perform.dumpVariables surroundings
  | .flatten => Perform.flatten given
  | .forRange => runLoop run fuel surroundings .forRange given.settings block
  | .forEach => runLoop run fuel surroundings .forEach given.settings block
  | .listDirectories => Perform.listEntries surroundings.characters .listDirectories true given
  | .listFiles => Perform.listEntries surroundings.characters .listFiles false given
  | .readLines => Perform.readLines surroundings.characters given
  | .replace => Perform.replace surroundings.characters given
  | .replaceExtension => Perform.replaceExtension given
  | .set => Perform.set given
  | .split => Perform.split surroundings.characters given
  | .unset => Perform.unset given

/-- The settings and the arguments that the options on a line come to. Arguments
that a command does not take are ignored with a warning, unless it has options. -/
def readOptions (command : Command) (options : List String) :
    Run (Except (List String) (Options.Settings × List String)) := do
  match command.grammar? with
  | some grammar =>
      match Options.read grammar options with
      | .ok settings => return .ok (settings, [])
      | .error (.fault fault) =>
          let problem := ScriptError.ofOptions command.name fault.message
          return .error [problem.message, grammar.usage]
      | .error .help => return .error [grammar.usage]
  | none =>
      if !options.isEmpty && !command.takesArguments then
        Run.record .warning
          s!"Command '{command.name}' ignores arguments: {Text.quotedList options}"
        return .ok (⟨[]⟩, [])
      else return .ok (⟨[]⟩, options)

def execute (run : Runner) (fuel : Nat) (surroundings : Surroundings) (setup : Setup)
    (block : Option (List Instruction)) : Run Runbook.Ending := do
  match ← readOptions setup.command setup.options with
  | .error messages => return .failed messages
  | .ok (settings, arguments) =>
      perform run fuel surroundings setup.command
        ⟨settings, arguments, setup.profile, setup.filters⟩ block

/-- Report how a command has ended, unless it has succeeded. -/
def reportEnding (surroundings : Surroundings) (command : Command) (ending : Runbook.Ending) :
    Run Bool := do
  match ending.report? with
  | some message => report surroundings message
  | none => pure ()
  if !ending.succeeded then Run.record .debug s!"Command '{command.name}' failed"
  return ending.succeeded

def runSetup (run : Runner) (fuel : Nat) (surroundings : Surroundings) (setup : Setup)
    (block : Option (List Instruction)) : Run Bool := do
  reportEnding surroundings setup.command (← execute run fuel surroundings setup block)

/-- Report a fault that ended a command. `line` is the line that was run. -/
def reportFault (surroundings : Surroundings) (command : Command) (line : String)
    (fault : Fault) : Run Bool := do
  Run.record .error s!"Error executing command '{command.name}': {fault.message}"
  Run.addError s!"Failed to execute command: {line}\n{fault.report}"
  surroundings.remark s!"Failed to execute command: {line}\n{fault.message}"
  return false

def conclude (surroundings : Surroundings) (command : Command) (line : String) :
    Except Fault Bool → Run Bool
  | .ok succeeded => return succeeded
  | .error fault => reportFault surroundings command line fault

/-- Run the command of a line, which can be asked to stop. A fault ends the command
and no more than that. -/
def dispatch (run : Runner) (fuel : Nat) (surroundings : Surroundings) (line : String)
    (setup : Setup) (block : Option (List Instruction)) : Run Bool :=
  Run.inFrame false do
    modify (State.note (.started setup.command))
    let result ← Run.attempt (runSetup run fuel surroundings setup block)
    conclude surroundings setup.command line result

/-! ## Lines and blocks -/

/-- Whether a line succeeded, and whether it took the block below it. -/
structure LineResult where
  succeeded : Bool
  tookBlock : Bool
  deriving DecidableEq, Repr

def runExpanded (run : Runner) (fuel : Nat) (surroundings : Surroundings) (line : String)
    (block : Option (List Instruction)) : Run LineResult := do
  match Tokens.split line with
  | .error fault => return ⟨← fail surroundings (ScriptError.ofTokens line fault).message, false⟩
  | .ok tokens =>
      let files := (← get).files
      match ← Run.ofLogged (Resolution.ofTokens surroundings.characters surroundings.profiles
          files true tokens) with
      | .refused error => return ⟨← refuse surroundings true error, false⟩
      | .help command =>
          surroundings.say (command.helpScreen true true)
          return ⟨true, block.isSome && command.takesBlock⟩
      | .ready setup =>
          let taken := if setup.command.takesBlock then block else none
          return ⟨← dispatch run fuel surroundings line setup taken, taken.isSome⟩

/-- Run one line, with the block below it if there is one. -/
def runLine (run : Runner) (fuel : Nat) (surroundings : Surroundings) (verbose : Bool)
    (line : String) (block : Option (List Instruction)) : Run LineResult := do
  modify (State.note (.began line))
  echo surroundings verbose s!"[RAW] {line}"
  match (← get).bindings.expand surroundings.host surroundings.limit line with
  | .error (.incomparableLimit type) =>
      throw (.type (Variables.ExpansionError.incomparableLimit type).message)
  | .error error =>
      return ⟨← fail surroundings (ScriptError.ofExpansion error).message, false⟩
  | .ok expanded =>
      echo surroundings verbose s!"[EXP] {expanded}"
      runExpanded run fuel surroundings expanded block

def blockAt : List Instruction → Option (List Instruction)
  | .block body :: _ => some body
  | _ => none

def strayBlock : (previous : Option String) → String
  | none => "Expected command, found nested block!"
  | some command => s!"Command '{command}' does not accept a nested block!"

def unlessStopped (part : Run Bool) : Run Bool := do
  if ← Run.isStopped then
    Run.record .info "Execution stopped"
    return true
  else part

/-- Run instructions in turn until one fails. `previous` is the command of the line
before, if that line took no block. -/
def runItems (run : Runner) (fuel : Nat) (surroundings : Surroundings) (verbose : Bool) :
    (previous : Option String) → List Instruction → Run Bool
  | _, [] => return true
  | previous, .block _ :: _ => unlessStopped (fail surroundings (strayBlock previous))
  | _, .line text :: rest => unlessStopped do
      let result ← runLine run fuel surroundings verbose text (blockAt rest)
      if !result.succeeded then return false
      else if result.tookBlock then
        match rest with
        | [] => return true
        | _ :: rest => runItems run fuel surroundings verbose none rest
      else
        let command := String.ofList (Text.firstWord text.toList)
        runItems run fuel surroundings verbose (some command) rest

/-- Run the instructions of a block. The fuel bounds how deep blocks and scripts are
nested and how often a loop runs its block. -/
def runBlock : (fuel : Nat) → Runner
  | 0 => fun _ _ _ => Run.outOfFuel
  | fuel + 1 => fun surroundings verbose instructions =>
      runItems (runBlock fuel) fuel surroundings verbose none instructions

/-! ## Lines outside of scripts -/

def runCommandLine (fuel : Nat) (surroundings : Surroundings) (line : String) : Run Bool := do
  let line := String.ofList (Text.strip line.toList)
  if line == "" then return true
  else
    match Tokens.split line with
    | .error fault => fail surroundings (ScriptError.ofTokens line fault).message
    | .ok tokens =>
        let files := (← get).files
        match ← Run.ofLogged (Resolution.ofTokens surroundings.characters surroundings.profiles
            files false tokens) with
        | .refused error => refuse surroundings false error
        | .help command =>
            surroundings.say (command.helpScreen true true)
            return true
        | .ready setup => dispatch (runBlock fuel) fuel surroundings line setup none

end Engine

end Runbook
