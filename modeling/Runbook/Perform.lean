import Runbook.Command
import Runbook.Expression.Evaluate
import Runbook.Files.Listing
import Runbook.Filter
import Runbook.Supervision
import Runbook.Text.Controls

/-!
What each command does, except for those that run further instructions.
-/

namespace Runbook

/-- How a command ends. The messages of a failure are still to be reported; there
are none if it has been reported already. -/
inductive Ending
  | done
  | failed (messages : List String)
  deriving DecidableEq, Repr

namespace Ending

def succeeded : Ending → Bool
  | .done => true
  | .failed _ => false

def report? : Ending → Option String
  | .done => none
  | .failed [] => none
  | .failed messages => some ("\n".intercalate messages)

end Ending

/-- What a command is given: settings for its parameters, further arguments, a
profile, and filters. -/
structure Given where
  settings : Options.Settings
  arguments : List String
  profile : Option Profile
  filters : List Filter

namespace Perform

def fail (message : String) : Run Ending := return .failed [message]

/-! ## Output and help -/

def echo (surroundings : Surroundings) (given : Given) : Run Ending := do
  surroundings.print (!given.settings.isOn "stderr") (given.settings.text "message")
  return .done

def notes : List String := [
  "Notes:",
  "<env>",
  "\tthe name of the environment to use for the command.",
  "<options>",
  "\tthe command supports additional options,",
  "\tyou can use --help as argument to see further details.",
  "<args>",
  "\tthe command passes on all unconsumed options to the",
  "\tunderlying process",
  "| filter ...",
  "\tthe command generates output which can be filtered,",
  "\tthese filters can be chained, one '|' per filter"]

def helpScreens (commands : List Command) : List String :=
  commands.map fun command => command.helpScreen false false

def listCommands (surroundings : Surroundings) : Run Ending := do
  surroundings.sayAll (["Available commands:", ""] ++ helpScreens Command.general ++ "" :: notes)
  return .done

def listProfiles (surroundings : Surroundings) (verbose : Bool) : Run Ending := do
  let profiles ← Run.ofLogged (surroundings.profiles.list (← get).files)
  if profiles.isEmpty then surroundings.say "No environments available"
  else
    surroundings.sayAll (["Available environments:", ""] ++
      profiles.flatMap fun profile => [profile.describe "" verbose, ""])
  return .done

def help (surroundings : Surroundings) : Run Ending := do
  let _ ← listCommands surroundings
  surroundings.say ""
  let _ ← listProfiles surroundings false
  surroundings.say ""
  return .done

def scriptCommandList : List String :=
  ["Available script commands:", ""] ++ helpScreens Command.scriptOnly

def listScriptCommands (surroundings : Surroundings) : Run Ending := do
  surroundings.sayAll scriptCommandList
  return .done

def scriptNotes : List String := [
  "",
  "Notes:",
  "<options>",
  "\tthe command supports additional options,",
  "\tspecify the script command's name to output detailed help.",
  "<args>",
  "\tthe command supports additional arguments,",
  "\tsee the script command's help."]

def scriptHelp (surroundings : Surroundings) (given : Given) : Run Ending := do
  let name := given.settings.text "cmd"
  if name == "" then
    surroundings.sayAll (scriptCommandList ++ scriptNotes)
    return .done
  else
    match Command.findScriptOnly? name with
    | none => fail s!"Unknown script command: {name}"
    | some command =>
        surroundings.sayAll (command.helpScreen false true :: scriptNotes)
        return .done

def filterHelp (surroundings : Surroundings) (given : Given) : Run Ending := do
  let name := given.settings.text "filter"
  if name == "" then
    surroundings.sayAll (["Available filters:", ""] ++
      FilterKind.all.map fun kind => kind.helpScreen false)
    return .done
  else
    match FilterKind.find? name with
    | none => fail s!"Unknown filter: {name}"
    | some kind =>
        surroundings.say (kind.helpScreen true)
        return .done

/-! ## Variables -/

def valueOf (name : String) : Run (Except Ending Value) := do
  match (← get).bindings.get? name with
  | some value => return .ok value
  | none => return .error (.failed [(ScriptError.unknownVariable name).message])

def store (given : Given) (value : Value) : Run Ending := do
  Run.setVariable (given.settings.text "dest") value
  return .done

def assignmentOf (arguments : List String) : Except String (String × String) :=
  match arguments with
  | [] => .error "Usage: set name=value | set name value"
  | first :: rest =>
      match Text.splitAtFirst ['='] first.toList with
      | some (name, value) =>
          .ok (String.ofList name, " ".intercalate (String.ofList value :: rest))
      | none =>
          if rest.isEmpty then .error s!"No value supplied for variable: {first}"
          else .ok (first, " ".intercalate rest)

def set (given : Given) : Run Ending := do
  match assignmentOf given.arguments with
  | .error problem => fail problem
  | .ok (name, value) =>
      if name == "" then fail "Empty variable name"
      else
        Run.setVariable name (.scalar value)
        return .done

def unset (given : Given) : Run Ending := do
  match given.arguments with
  | [name] =>
      modify fun state => { state with bindings := state.bindings.remove name }
      return .done
  | arguments => fail s!"Expected exactly one variable name, found: {arguments.length}"

def showVariable : String × Value → String
  | (name, .scalar text) => s!"{name}={text}"
  | (name, .array elements) => s!"{name}=" ++ ", ".intercalate elements

def dumpVariables (surroundings : Surroundings) : Run Ending := do
  surroundings.sayAll ((← get).bindings.sorted.map showVariable)
  return .done

def realOf : Quantity → Except Fault Double
  | .real value => .ok value
  | .complex _ _ =>
      .error (.type "float() argument must be a string or a real number, not 'complex'")

def calculate (given : Given) : Run Ending := do
  let expression := given.settings.text "expr"
  match Expression.evaluate expression with
  | .ok quantity =>
      let value ← Run.ofExcept (realOf quantity)
      Run.setVariable (given.settings.text "var") (.scalar (Number.writeResult value))
      return .done
  | .error error =>
      match error.kind with
      | .reading | .refusal | .division =>
          fail s!"Failed to evaluate expression '{expression}': {error.message}"
      | .range | .type => throw (.expression error)

/-! ## Texts -/

/-- A pattern that a user gives. Only errors in the pattern itself are reported
with `problem` in front. -/
def patternOf (characters : Pattern.CharacterNames) (problem text : String) :
    Run (Except Ending Pattern) := do
  match Pattern.ofText characters text with
  | .ok pattern => return .ok pattern
  | .error error =>
      if error.fault.kind == .pattern then
        return .error (.failed [s!"{problem}: {text} ({error.message})"])
      else throw (.pattern error)

def regexpProblem : String := "Invalid regular expression"

def optionalPattern (characters : Pattern.CharacterNames) (text : String) :
    Run (Except Ending (Option Pattern)) := do
  if text == "" then return .ok none
  else return (← patternOf characters regexpProblem text).map some

/-- The pieces of a text without empty ones at the end. What a group leaves that
matched nothing shows as a word. -/
def piecesOf (pattern : Pattern) (text : String) : List String :=
  let pieces := (pattern.split text.toList).map fun piece =>
    (piece.map String.ofList).getD "None"
  (pieces.reverse.dropWhile (· == "")).reverse

def split (characters : Pattern.CharacterNames) (given : Given) : Run Ending := do
  let source := given.settings.text "source"
  match ← valueOf source with
  | .error ending => return ending
  | .ok (.array _) => fail s!"Variable is an array, cannot split: {source}"
  | .ok (.scalar text) =>
      match ← patternOf characters "Invalid delimiter" (given.settings.text "delimiter") with
      | .error ending => return ending
      | .ok pattern => store given (.array (piecesOf pattern text))

def flatten (given : Given) : Run Ending := do
  match ← valueOf (given.settings.text "array") with
  | .error ending => return ending
  | .ok (.scalar text) => store given (.scalar text)
  | .ok (.array elements) =>
      let glue := Text.expandControls (given.settings.text "glue").toList
      store given (.scalar ((String.ofList glue).intercalate elements))

abbrev Change := String → Except Fault String

def literalChange (old new : String) : Change := fun text =>
  .ok (String.ofList (Text.substitute old.toList new.toList text.toList))

def patternChange (pattern : Pattern) (template : String) (all : Bool) : Change := fun text => do
  let parts ← orFault .pattern (pattern.readTemplate template)
  return String.ofList (pattern.replace parts (if all then none else some 1) text.toList)

def changeOf (characters : Pattern.CharacterNames) (settings : Options.Settings) :
    Run (Except Ending Change) := do
  let old := settings.text "find"
  let new := settings.text "replace"
  if settings.isOn "regexp" then
    return (← patternOf characters regexpProblem old).map fun pattern =>
      patternChange pattern new (settings.isOn "all")
  else return .ok (literalChange old new)

/-- Change a text, or every element of an array. -/
def changeValue (change : Change) : Value → Except Fault Value
  | .scalar text => (change text).map .scalar
  | .array elements => (elements.mapM change).map .array

def replace (characters : Pattern.CharacterNames) (given : Given) : Run Ending := do
  match ← valueOf (given.settings.text "source") with
  | .error ending => return ending
  | .ok value =>
      match ← changeOf characters given.settings with
      | .error ending => return ending
      | .ok change => store given (← Run.ofExcept (changeValue change value))

def replaceExtension (given : Given) : Run Ending :=
  let start := Files.Path.withoutExtension (given.settings.text "file")
  store given (.scalar (start ++ given.settings.text "ext"))

/-! ## Files -/

def listEntries (characters : Pattern.CharacterNames) (command : Command)
    (directories : Bool) (given : Given) : Run Ending := do
  let directory := given.settings.text "dir"
  if !(← get).files.isDirectory directory then fail s!"Directory does not exist: {directory}"
  else
    match ← optionalPattern characters (given.settings.text "regexp") with
    | .error ending => return ending
    | .ok pattern =>
        let recursive := given.settings.isOn "recursive"
        let found ← Run.ofExcept (orFault .files
          ((← get).files.list recursive directories pattern directory))
        Run.record .debug s!"{command.name}: {found.length} match(es) in {directory}"
        store given (.array found)

def isWanted (skipEmpty invert : Bool) (pattern : Option Pattern) (line : List Char) : Bool :=
  !(skipEmpty && (Text.strip line).isEmpty) &&
    pattern.all fun pattern => pattern.fullMatch line != invert

def readLines (characters : Pattern.CharacterNames) (given : Given) : Run Ending := do
  let file := given.settings.text "file"
  if !(← get).files.isFile file then fail s!"File does not exist: {file}"
  else
    match ← optionalPattern characters (given.settings.text "regexp") with
    | .error ending => return ending
    | .ok pattern =>
        match (← get).files.readText file with
        | .error fault => fail s!"Failed to read file '{file}': {fault.message}"
        | .ok text =>
            let lines := Text.splitLines (Text.unifyNewlines text.toList)
            let wanted := lines.filter (isWanted (given.settings.isOn "skip_empty")
              (given.settings.isOn "invert_matching") pattern)
            store given (.array (wanted.map String.ofList))

def deleteDirectory (given : Given) : Run Ending := do
  let directory := given.settings.text "dir"
  if !(← get).files.hasPath directory then return .done
  else if !(← get).files.isDirectory directory then fail s!"Not a directory: {directory}"
  else
    let (files, error) := (← get).files.deleteDirectory directory
    Run.setFiles files
    match error with
    | some error => fail s!"Failed to delete directory '{directory}': {error.message}"
    | none =>
        Run.record .info s!"Deleted directory: {directory}"
        return .done

/-! ## Programs -/

/-- What is done with a line that a program writes: what the filters leave of it is
printed. -/
def filterLine (surroundings : Surroundings) : Supervision.Handler (List Filter) :=
  fun filters stdout text => do
    let passed := Filter.passAll (← get).files text stdout filters
    Run.setFiles passed.files
    match passed.outcome with
    | .error fault => return (passed.filters, some fault)
    | .ok none => return (passed.filters, none)
    | .ok (some line) =>
        surroundings.print stdout line
        return (passed.filters, none)

def launchOf (surroundings : Surroundings) (profile : Profile) (arguments : List String) :
    Host.Launch :=
  ⟨profile.executable :: profile.arguments ++ arguments,
    Association.setAll (Association.ofList surroundings.environment) profile.bindings,
    profile.workingDirectory⟩

/-- What the end of a program means for the command that started it. -/
def endingOf (profile : Profile) (stopped : Bool) (outcome : Supervision.Outcome) : Ending :=
  if stopped then .failed [s!"Process was terminated: {profile.name}"]
  else
    match outcome.failures with
    | fault :: _ =>
        .failed [s!"Failed to process output of {profile.name}: {fault.message}"]
    | [] =>
        if outcome.code == 0 then .done
        else .failed [s!"Process exited with code {outcome.code}: {profile.name}"]

def run (surroundings : Surroundings) (given : Given) : Run Ending := do
  match given.profile with
  | none => throw (.attribute "'NoneType' object has no attribute 'executable'")
  | some profile =>
      let launch := launchOf surroundings profile given.arguments
      match ← Run.attempt (Supervision.run surroundings launch (filterLine surroundings) given.filters) with
      | .ok outcome => return endingOf profile (← Run.isStopped) outcome
      | .error fault =>
          if fault.isSystem then
            fail s!"Failed to launch '{profile.executable}': {fault.message}"
          else throw fault

end Perform

end Runbook
