import Runbook.Engine
import Runbook.Logging
import Runbook.Settings

/-!
The command line of the program: global options, and then one command with its
arguments, which are handed on as they are.
-/

namespace Runbook.Cli

open Options (Grammar Parameter)

def optionalText (flag name description : String) : Parameter :=
  ⟨[flag], name, .text, false, .absent, description⟩

/-- The version of a program that is not part of any release. -/
def version : String := "0.0.0"

def grammar : Grammar where
  program := "launchenv"
  parameters := [
    ⟨["-h", "--help"], "help", .help, false, .absent, "show this help message and exit"⟩,
    optionalText "--home" "home" "Home directory holding config.yaml and envs/",
    optionalText "--config" "config" "Settings YAML file (default: <home>/config.yaml)",
    optionalText "--log" "log" "Optional log file",
    ⟨["-q", "--quiet"], "quiet", .switch, false, .switch false, "Suppress console logging"⟩,
    .switch "--debug" "debug" "Enable verbose debug logging",
    .switch "--verbose" "verbose" "Output raw and expanded script lines on stderr"]
  abbreviations := true
  remainder := some ("command", "The command to execute, followed by its options")

def purpose : String := "Launch named environments and run indentation-based scripts."

def remark : String :=
  "Use 'help' as command to list the available commands and environments."

/-- The machine on which the program runs, the libraries that it finds there, and the
time for its log. -/
structure Machine where
  files : Files.FileSystem
  environment : List (String × String)
  launch : Host.Launcher
  reader : Document.Reader
  characters : Pattern.CharacterNames
  time : String

/-- What the program leaves behind. -/
structure Result where
  code : Nat
  stdout : String
  stderr : String
  deriving DecidableEq, Repr

/-- A result, or a fault that ends the program, what was logged, and the files
afterwards. -/
structure Outcome where
  result : Except Fault Result
  records : List Log.Record
  files : Files.FileSystem

/-! ## Options -/

/-- The line that the arguments behind the global options stand for. -/
def lineOf (arguments : List String) : String :=
  if arguments.isEmpty then "help" else Tokens.join arguments

def overridesOf (options : Options.Settings) : Document.Fields :=
  let text (name : String) : Document.Value :=
    ((options.text? name).map Document.Value.text).getD .null
  .ofPairs [
    (.text "home_dir", text "home"),
    (.text "verbose", if options.isOn "verbose" then .boolean true else .null),
    (.text "log_file", text "log")]

def limitOf : Document.Value → Variables.Limit
  | .integer count => .passes count
  | .decimal bound => .fractional bound
  | .boolean value => .flag value
  | value => .incomparable value.typeName

/-- The seconds that a setting gives. Without a number there is no limit. -/
def secondsOf : Document.Value → Double
  | .decimal seconds => seconds
  | .integer seconds => Double.ofInt seconds
  | _ => .infinite false

def pathOf : Document.Value → Except Fault String
  | .text path => .ok path
  | value => .error (.type
      s!"expected str, bytes or os.PathLike object, not {value.typeName}")

def logFileOf (value : Document.Value) : Except Fault (Option String) :=
  if value.isTrue then (pathOf value).map some else .ok none

/-! ## Output -/

def shown (setup : Log.Setup) (time : String) (stdout : Bool) : Event → String
  | .printed stream text => if stream == stdout then text ++ "\n" else ""
  | .logged record => if stdout then "" else setup.consoleText time record
  | .began _ | .started _ => ""

def shownAll (setup : Log.Setup) (time : String) (stdout : Bool) (events : List Event) :
    String :=
  String.join (events.map (shown setup time stdout))

def recordsOf (events : List Event) : List Log.Record :=
  events.filterMap fun
    | .logged record => some record
    | _ => none

/-- The output so far, what was logged, and the files. -/
structure Progress where
  stdout : String
  stderr : String
  records : List Log.Record
  files : Files.FileSystem

namespace Progress

def ended (progress : Progress) (code : Nat) : Outcome :=
  ⟨.ok ⟨code, progress.stdout, progress.stderr⟩, progress.records, progress.files⟩

def faulted (progress : Progress) (fault : Fault) : Outcome :=
  ⟨.error fault, progress.records, progress.files⟩

def start (files : Files.FileSystem) : Progress := ⟨"", "", [], files⟩

def opened (progress : Progress) (log : Log.Opened) : Progress :=
  { progress with
    stdout := progress.stdout ++ String.join (log.complaint.toList.map (· ++ "\n"))
    files := log.files }

def showing (progress : Progress) (setup : Log.Setup) (time : String)
    (events : List Event) : Progress where
  stdout := progress.stdout ++ shownAll setup time true events
  stderr := progress.stderr ++ shownAll setup time false events
  records := progress.records ++ recordsOf events
  files := setup.writeFiles time (recordsOf events) progress.files

end Progress

/-! ## Running -/

def surroundingsOf (machine : Machine) (settings : Settings) : Except Fault Surroundings := do
  let path ← pathOf (settings.get "envs_dir")
  return {
    host := machine.environment
    limit := limitOf (settings.get "max_expansion_depth")
    profiles := .directory machine.reader path
    characters := machine.characters
    verbose := (settings.get "verbose").isTrue
    killTimeout := secondsOf (settings.get "kill_timeout")
    environment := machine.environment
    launch := machine.launch
    stopsAt := fun _ => false }

/-- What is shown when a line ends in a fault that nothing catches. -/
def faultText (fault : Fault) : String :=
  s!"Exception in thread launchenv-command:\n{fault.report}"

/-- The part of a run that runs one line, with the remarks that surround it. -/
def runLine (fuel : Nat) (surroundings : Surroundings) (line : String) : Run Bool := do
  Run.record .debug s!"Executing: {line}"
  let succeeded ← (do
    match ← Run.attempt (Engine.runCommandLine fuel surroundings line) with
    | .ok succeeded => return succeeded
    | .error fault =>
        surroundings.remark (faultText fault)
        return false)
  if !succeeded then
    let errors := (← get).errors
    Run.record .debug s!"Command failed with {errors.length} error(s)"
  return succeeded

/-- Run a line with the log that was set up last. Without fuel there is no outcome. -/
def runWith (fuel : Nat) (machine : Machine) (setup : Log.Setup) (settings : Settings)
    (line : String) (progress : Progress) : Option Outcome := do
  match surroundingsOf machine settings with
  | .error fault => return progress.faulted fault
  | .ok surroundings =>
      let (result, state) ← (runLine fuel surroundings line).run
        (.initial .empty progress.files)
      let progress := { progress with files := state.files }
      let progress := progress.showing setup machine.time state.events
      match result with
      | .error fault => return progress.faulted fault
      | .ok succeeded => return progress.ended (if succeeded then 0 else 1)

/-- The log that the settings ask for. A log file among the options takes its place. -/
def openConfigured (files : Files.FileSystem) (settings : Settings)
    (options : Options.Settings) : Except Fault (Option Log.Opened) := do
  if options.text "log" != "" then return none
  else
    match ← logFileOf (settings.get "log_file") with
    | none => return none
    | some name =>
        Log.openLog files (some name) (options.isOn "quiet") (options.isOn "debug")

def runOptions (fuel : Nat) (machine : Machine) (options : Options.Settings) :
    Option Outcome := do
  let start : Progress := .start machine.files
  match Log.openLog start.files (options.text? "log") (options.isOn "quiet")
      (options.isOn "debug") with
  | .error fault => return start.faulted fault
  | .ok first =>
      let progress := start.opened first
      let (loaded, records) := (Settings.load machine.reader progress.files
        machine.environment (options.text? "config") (overridesOf options)).outcome
      let progress := progress.showing first.setup machine.time (records.map .logged)
      match loaded with
      | .error fault =>
          if fault.isSystem || fault.isValue then
            return { progress with stderr := progress.stderr ++ fault.message ++ "\n" }.ended 1
          else return progress.faulted fault
      | .ok settings =>
          let line := lineOf (options.texts "command")
          match openConfigured progress.files settings options with
          | .error fault => return progress.faulted fault
          | .ok none => runWith fuel machine first.setup settings line progress
          | .ok (some second) =>
              runWith fuel machine second.setup settings line (progress.opened second)

def run (fuel : Nat) (machine : Machine) (arguments : List String) : Option Outcome :=
  let start : Progress := .start machine.files
  match Options.read grammar arguments with
  | .ok options => runOptions fuel machine options
  | .error .help =>
      let text := grammar.help (some purpose) (some remark) ++ "\n"
      some ({ start with stdout := text }.ended 0)
  | .error (.fault fault) =>
      let text := s!"{grammar.usage}\n{grammar.program}: error: {fault.message}\n"
      some ({ start with stderr := text }.ended 2)

end Runbook.Cli
