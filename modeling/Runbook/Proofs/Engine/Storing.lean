import Runbook.Proofs.Engine.Reporting
import Runbook.Proofs.Run.Keeping
import Runbook.Proofs.Text.Marks

/-! # Where commands store their results

A command that is known in scripts only, and runs no lines, stores its result in the
variable that its arguments name, if it has a result at all. However else it ends, and it
may fail in many ways, the variables are as they were.
-/

namespace Runbook

open Script (Instruction)

/-! ## Destinations -/

namespace Command

/-- The parameter that names the variable in which a command stores its result. -/
def destinationParameter? (command : Command) : Option String := do
  let parameters ← command.parameters?
  let parameter ← parameters.find? fun parameter =>
    parameter.flags.any fun flag => flag == "--dest" || flag == "--var"
  return parameter.name

/-- The variable that arguments name as a destination without an option. -/
def destinationArgument? : Command → List String → Option String
  | .set, first :: _ => some (String.ofList (first.toList.takeWhile (· != '=')))
  | .unset, name :: _ => some name
  | _, _ => none

/-- The variable that the arguments of a command name as its destination. -/
def destination? (command : Command) (arguments : List String) : Option String :=
  match command.destinationParameter? with
  | none => command.destinationArgument? arguments
  | some parameter => do
      let grammar ← command.grammar?
      let settings ← (Options.read grammar arguments).toOption
      return settings.text parameter

example : destination? .set ["a=b", "c"] = some "a" := by decide +kernel

example : destination? .calculate ["--expr", "1", "--var", "x"] = some "x" := by decide +kernel

theorem destination?_of_parameter {command : Command} {parameter : String}
    {grammar : Options.Grammar} {arguments : List String} {settings : Options.Settings}
    (named : command.destinationParameter? = some parameter)
    (grammatical : command.grammar? = some grammar)
    (read : Options.read grammar arguments = .ok settings) :
    command.destination? arguments = some (settings.text parameter) := by
  simp [destination?, named, grammatical, read, Except.toOption]

end Command

/-! ## Commands -/

namespace Perform

variable (characters : Pattern.CharacterNames)

theorem keeps_valueOf (name : String) : Keeps (valueOf name) := by
  refine .get fun state => ?_
  split
  · exact .pure _
  · exact .pure _

theorem keeps_patternOf (problem text : String) : Keeps (patternOf characters problem text) := by
  unfold patternOf
  split
  · exact .pure _
  · split
    · exact .pure _
    · exact .throw _

theorem keeps_optionalPattern (text : String) : Keeps (optionalPattern characters text) := by
  unfold optionalPattern
  split
  · exact .pure _
  · exact (keeps_patternOf _ _ _).bind fun _ => .pure _

theorem keeps_changeOf (settings : Options.Settings) : Keeps (changeOf characters settings) := by
  unfold changeOf
  dsimp only
  split
  · exact (keeps_patternOf _ _ _).bind fun _ => .pure _
  · exact .pure _

variable (given : Given)

/-- A name is taken for a destination just as it is taken for the name to set. -/
theorem destination?_of_assignmentOf {arguments : List String} {name value : String}
    (assigned : assignmentOf arguments = .ok (name, value)) :
    Command.destination? .set arguments = some name := by
  cases arguments with
  | nil => cases assigned
  | cons first rest =>
      change some (String.ofList (first.toList.takeWhile (· != '='))) = some name
      rw [Text.takeWhile_ne_eq]
      unfold assignmentOf at assigned
      dsimp only at assigned
      generalize Text.splitAtFirst ['='] first.toList = parts at assigned ⊢
      cases parts with
      | none =>
          dsimp only at assigned
          split at assigned
          · cases assigned
          · cases assigned
            rw [Option.map_none, Option.getD_none, String.ofList_toList]
      | some parts =>
          cases assigned
          rfl

theorem stores_set : Stores (Command.destination? .set given.arguments) (set given) := by
  unfold set
  cases assigned : assignmentOf given.arguments with
  | error problem => exact .pure _
  | ok assignment =>
      rcases assignment with ⟨name, value⟩
      rw [destination?_of_assignmentOf assigned]
      dsimp only
      split
      · exact .pure _
      · exact .setVariable name _

theorem stores_unset : Stores (Command.destination? .unset given.arguments) (unset given) := by
  unfold unset
  split
  · rename_i name same
    rw [same]
    exact .lastly fun bindings _ different =>
      bindings.get?_remove_of_ne fun same => different (congrArg some same)
  · exact .pure _

theorem stores_dumpVariables (surroundings : Surroundings) :
    Stores none (dumpVariables surroundings) :=
  .get fun _ => .after (.sayAll surroundings _) fun _ => .pure _

theorem stores_calculate : Stores (some (given.settings.text "var")) (calculate given) := by
  unfold calculate
  dsimp only
  split
  · exact .after (.ofExcept _) fun value => .setVariable _ _
  · split
    · exact .pure _
    · exact .pure _
    · exact .pure _
    · exact .ofKeeps (.throw _)
    · exact .ofKeeps (.throw _)

theorem stores_store (value : Value) :
    Stores (some (given.settings.text "dest")) (store given value) :=
  .setVariable _ value

theorem stores_split :
    Stores (some (given.settings.text "dest")) (split characters given) := by
  unfold split
  refine .after (keeps_valueOf _) fun result => ?_
  rcases result with ending | ⟨text⟩ | elements
  · exact .pure ending
  · refine .after (keeps_patternOf _ _ _) fun result => ?_
    cases result with
    | error ending => exact .pure ending
    | ok pattern => exact stores_store given _
  · exact .pure _

theorem stores_flatten : Stores (some (given.settings.text "dest")) (flatten given) := by
  unfold flatten
  refine .after (keeps_valueOf _) fun result => ?_
  rcases result with ending | ⟨text⟩ | elements
  · exact .pure ending
  · exact stores_store given _
  · exact stores_store given _

/-- A replacement can fail for any element of an array, but none is stored before all of
them have been replaced. -/
theorem stores_replace : Stores (some (given.settings.text "dest")) (replace characters given) := by
  unfold replace
  refine .after (keeps_valueOf _) fun result => ?_
  cases result with
  | error ending => exact .pure ending
  | ok value =>
      refine .after (keeps_changeOf _ _) fun result => ?_
      cases result with
      | error ending => exact .pure ending
      | ok change => exact .after (.ofExcept _) fun _ => stores_store given _

theorem stores_replaceExtension :
    Stores (some (given.settings.text "dest")) (replaceExtension given) :=
  stores_store given _

theorem stores_listEntries (command : Command) (directories : Bool) :
    Stores (some (given.settings.text "dest"))
      (listEntries characters command directories given) := by
  unfold listEntries
  refine .get fun _ => ?_
  split
  · exact .pure _
  · refine .after (keeps_optionalPattern _ _) fun result => ?_
    cases result with
    | error ending => exact .pure ending
    | ok pattern =>
        refine .get fun _ => .after (.ofExcept _) fun found => ?_
        exact .after (.record _ _) fun _ => stores_store given _

theorem stores_readLines :
    Stores (some (given.settings.text "dest")) (readLines characters given) := by
  unfold readLines
  refine .get fun _ => ?_
  split
  · exact .pure _
  · refine .after (keeps_optionalPattern _ _) fun result => ?_
    cases result with
    | error ending => exact .pure ending
    | ok pattern =>
        refine .get fun _ => ?_
        split
        · exact .pure _
        · exact stores_store given _

theorem stores_deleteDirectory : Stores none (deleteDirectory given) := by
  unfold deleteDirectory
  refine .get fun _ => ?_
  split
  · exact .pure _
  · refine .get fun _ => ?_
    split
    · exact .pure _
    · refine .get fun _ => .after (.setFiles _) fun _ => ?_
      split
      · exact .pure _
      · exact .after (.record _ _) fun _ => .pure _

end Perform

namespace Engine

/-- What the options on a line come to: settings, if the command has options, and all of
them as arguments, if it takes arguments. -/
def IsReadFrom (command : Command) (options : List String) (settings : Options.Settings)
    (arguments : List String) : Prop :=
  match command.grammar? with
  | some grammar => Options.read grammar options = .ok settings
  | none => command.takesArguments = true → arguments = options

theorem keeps_readOptions (command : Command) (options : List String) :
    Keeps (readOptions command options) := by
  unfold readOptions
  split
  · split
    · exact .pure _
    · exact .pure _
    · exact .pure _
  · split
    · exact (Keeps.record _ _).bind fun _ => .pure _
    · exact .pure _

theorem returns_readOptions (command : Command) (options : List String) :
    Returns (fun result => ∀ settings arguments, result = .ok (settings, arguments) →
      IsReadFrom command options settings arguments) (readOptions command options) := by
  unfold readOptions IsReadFrom
  cases command.grammar? with
  | some grammar =>
      dsimp only
      split
      · refine .pure ?_
        rintro settings arguments ⟨⟩
        assumption
      · exact .pure fun _ _ equal => by contradiction
      · exact .pure fun _ _ equal => by contradiction
  | none =>
      dsimp only
      split
      · rename_i ignored
        refine .after fun _ => .pure ?_
        rintro settings arguments ⟨⟩ takes
        simp [takes] at ignored
      · refine .pure ?_
        rintro settings arguments ⟨⟩ takes
        rfl

section ScriptOnly

variable (run : Runner) (fuel : Nat) (surroundings : Surroundings)

theorem stores_perform {command : Command} (scriptOnly : command ∈ Command.scriptOnly)
    (blockless : command.takesBlock = false) {options : List String} {given : Given}
    (isRead : IsReadFrom command options given.settings given.arguments)
    (block : Option (List Instruction)) :
    Stores (command.destination? options)
      (perform run fuel surroundings command given block) := by
  cases command with
  | forRange | forEach => contradiction
  | set =>
      rw [← isRead rfl]
      exact Perform.stores_set given
  | unset =>
      rw [← isRead rfl]
      exact Perform.stores_unset given
  | dumpVariables => exact Perform.stores_dumpVariables surroundings
  | deleteDirectory => exact Perform.stores_deleteDirectory given
  | calculate =>
      rw [Command.destination?_of_parameter rfl rfl isRead]
      exact Perform.stores_calculate given
  | flatten =>
      rw [Command.destination?_of_parameter rfl rfl isRead]
      exact Perform.stores_flatten given
  | split =>
      rw [Command.destination?_of_parameter rfl rfl isRead]
      exact Perform.stores_split _ given
  | replace =>
      rw [Command.destination?_of_parameter rfl rfl isRead]
      exact Perform.stores_replace _ given
  | replaceExtension =>
      rw [Command.destination?_of_parameter rfl rfl isRead]
      exact Perform.stores_replaceExtension given
  | listFiles =>
      rw [Command.destination?_of_parameter rfl rfl isRead]
      exact Perform.stores_listEntries _ given .listFiles false
  | listDirectories =>
      rw [Command.destination?_of_parameter rfl rfl isRead]
      exact Perform.stores_listEntries _ given .listDirectories true
  | readLines =>
      rw [Command.destination?_of_parameter rfl rfl isRead]
      exact Perform.stores_readLines _ given
  | _ => exact absurd scriptOnly (by decide)

/-- A command that is known in scripts only, and takes no block, comes to an end. If it
fails, or ends in a fault, the variables are exactly as they were. If it succeeds, nothing
has happened to any variable but the one that its arguments name as its destination. -/
theorem scriptOnly_stores_in_destination {command : Command}
    (scriptOnly : command ∈ Command.scriptOnly) (blockless : command.takesBlock = false)
    (profile : Option Profile) (filters : List Filter) (options : List String)
    (block : Option (List Instruction)) (state : State) :
    ∃ result final,
      (execute run fuel surroundings ⟨command, profile, filters, options⟩ block).run state =
          some (result, final) ∧
        (result ≠ .ok .done → final.bindings = state.bindings) ∧
          ∀ other, command.destination? options ≠ some other →
            final.bindings.get? other = state.bindings.get? other := by
  have stores : Stores (command.destination? options)
      (execute run fuel surroundings ⟨command, profile, filters, options⟩ block) := by
    refine .after_of_returns (keeps_readOptions command options)
      (returns_readOptions command options) fun result isRead => ?_
    cases result with
    | error messages => exact .pure _
    | ok read =>
        exact stores_perform run fuel surroundings scriptOnly blockless (isRead _ _ rfl) block
  exact stores state

end ScriptOnly

/-- Options to replace what a pattern matches by a group that the pattern does not have. -/
def grouplessOptions : List String :=
  ["--str", "names", "--find", "a", "--replace", "\\9", "--regexp", "--dest", "names"]

def namesState : State :=
  .initial (Variables.empty.set "names" (.array ["b", "a"])) ⟨.directory .nil, []⟩

theorem scriptOnly_stores_in_destination_groupless :
    ∃ fault final,
      (execute (runBlock 0) 0 bareSurroundings ⟨.replace, none, [], grouplessOptions⟩ none).run
          namesState = some (.error fault, final) ∧
        final.bindings = namesState.bindings := by
  have scriptOnly : Command.replace ∈ Command.scriptOnly := by decide
  rcases scriptOnly_stores_in_destination (runBlock 0) 0 bareSurroundings scriptOnly rfl none []
    grouplessOptions none namesState with ⟨result, final, ran, untouched, -⟩
  have failed : ((execute (runBlock 0) 0 bareSurroundings ⟨.replace, none, [], grouplessOptions⟩
      none).run namesState).map (fun ended => ended.1.toOption) = some none := by
    decide +kernel
  rw [ran] at failed ⊢
  cases result with
  | ok ending => cases failed
  | error fault => exact ⟨fault, final, rfl, untouched fun same => by cases same⟩

end Engine

end Runbook
