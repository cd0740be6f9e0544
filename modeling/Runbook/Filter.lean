import Runbook.Logged
import Runbook.Options.Layout
import Runbook.Options.Reading
import Runbook.Pattern.Template
import Runbook.ScriptError
import Runbook.TextFile

/-!
Filters for the output of a command. A filter sees lines of one stream or of both
and keeps, changes, drops or copies each of them. Filters are put in a chain; a
line that one filter drops does not reach the filters behind it.
-/

namespace Runbook

/-! ## Kinds of filters -/

inductive FilterKind
  | grep
  | replace
  | tee
  deriving DecidableEq, Repr

namespace FilterKind

def all : List FilterKind := [.grep, .replace, .tee]

def name : FilterKind → String
  | .grep => "grep"
  | .replace => "replace"
  | .tee => "tee"

def find? (name : String) : Option FilterKind := all.find? fun kind => kind.name == name

def purpose : FilterKind → String
  | .grep => "For capturing strings that match a regular expression."
  | .replace => "Performs string replacement, simple or regular expression based."
  | .tee => "Tees off the output to a file."

open Options (Parameter Grammar)

def streamParameters : List Parameter := [
  .switch "--stdout" "stdout" "for capturing output from stdout.",
  .switch "--stderr" "stderr" "for capturing output from stderr."]

def ownParameters : FilterKind → List Parameter
  | .grep => [
      .requiredText "--regexp" "regexp"
        "the regular expression that the output must match to be kept.",
      .switch "--invert" "invert" "whether to invert the matching sense."]
  | .replace => [
      .requiredText "--find" "find" "the string or pattern to find.",
      .requiredText "--replace" "replace" "the replacement string to use.",
      .switch "--regexp" "regexp" "whether to use regular expression matching.",
      .switch "--all" "all"
        "whether to replace all occurrences in case of regexp matching."]
  | .tee => [
      .requiredText "--output" "output" "the file to store the output in.",
      .switch "--append" "append" "whether to append to an existing output file."]

def grammar (kind : FilterKind) : Grammar :=
  .ofCommand kind.name (streamParameters ++ kind.ownParameters)

/-- What a filter does, and with `full` also its options. -/
def helpScreen (kind : FilterKind) (full : Bool) : String :=
  let options := if full then "\n\n" ++ kind.grammar.help none none else ""
  s!"{kind.name} <options>\n\t{kind.purpose}{options}"

end FilterKind

/-! ## Configured filters -/

inductive FilterAction
  | keep (pattern : Pattern) (invert : Bool)
  | substitute (old new : String)
  | rewrite (pattern : Pattern) (template : String) (all : Bool)
  | copy (path : String) (append : Bool)

structure Filter where
  kind : FilterKind
  stdout : Bool
  stderr : Bool
  action : FilterAction

namespace Filter

def sees (filter : Filter) (stdout : Bool) : Bool :=
  if stdout then filter.stdout else filter.stderr

/-- A configured filter, or what is wrong with its options. -/
abbrev Configured := Except ScriptError Filter

def refuse {α : Type} (kind : FilterKind) (problem : String) : Except ScriptError α :=
  .error (.filter (some s!"Failed to configure filter '{kind.name}': {problem}"))

/-- The pattern that an option gives. Only errors in the pattern itself are
problems of the configuration. -/
def patternOf (characters : Pattern.CharacterNames) (kind : FilterKind) (text : String) :
    Logged (Except ScriptError Pattern) := do
  match Pattern.ofText characters text with
  | .ok pattern => return .ok pattern
  | .error error =>
      if error.fault.kind == .pattern then
        return refuse kind s!"Invalid regular expression: {text} ({error.message})"
      else throw (.pattern error)

def actionOf (characters : Pattern.CharacterNames) (files : Files.FileSystem)
    (kind : FilterKind) (settings : Options.Settings) :
    Logged (Except ScriptError FilterAction) := do
  match kind with
  | .grep =>
      let pattern ← patternOf characters kind (settings.text "regexp")
      return pattern.map fun pattern => .keep pattern (settings.isOn "invert")
  | .replace =>
      let old := settings.text "find"
      let new := settings.text "replace"
      if settings.isOn "regexp" then
        let pattern ← patternOf characters kind old
        return pattern.map fun pattern => .rewrite pattern new (settings.isOn "all")
      else return .ok (.substitute old new)
  | .tee =>
      let path := Files.Path.tidy (settings.text "output")
      if ← Logged.ofExcept (files.leadsToDirectory path) then
        return refuse kind s!"Output points to a directory: {path}"
      else return .ok (.copy path (settings.isOn "append"))

/-- Without a choice of streams a filter sees both. -/
def ofAction (kind : FilterKind) (settings : Options.Settings) (action : FilterAction) :
    Filter :=
  let stdout := settings.isOn "stdout"
  let stderr := settings.isOn "stderr"
  let both := !stdout && !stderr
  ⟨kind, both || stdout, both || stderr, action⟩

def readOptions (kind : FilterKind) (options : List String) :
    Except ScriptError Options.Settings :=
  match Options.read kind.grammar options with
  | .ok settings => .ok settings
  | .error (.fault fault) => refuse kind s!"{kind.name}: {fault.message}"
  | .error .help => refuse kind "initialization failed"

def configure (characters : Pattern.CharacterNames) (files : Files.FileSystem)
    (tokens : List String) : Logged Configured := do
  match tokens with
  | [] => return .error (.filter (some "Empty filter specification"))
  | name :: options =>
      match FilterKind.find? name with
      | none =>
          let known := ", ".intercalate (FilterKind.all.map FilterKind.name)
          return .error (.filter (some s!"Unknown filter: {name} (available: {known})"))
      | some kind =>
          match readOptions kind options with
          | .error error => return .error error
          | .ok settings =>
              match ← actionOf characters files kind settings with
              | .error error => return .error error
              | .ok action =>
                  Logged.record .debug ("Configured filter: " ++ " ".intercalate tokens)
                  return .ok (ofAction kind settings action)

/-! ## Passing lines -/

/-- What is left of a line, what the filter does from now on, and the files. -/
structure Step where
  line : Option String
  action : FilterAction
  files : Files.FileSystem

/-- Let a filter act on a line that it sees. A copying filter starts its file anew
with the first line unless it appends. -/
def act (files : Files.FileSystem) (line : String) (action : FilterAction) :
    Except Fault Step :=
  match action with
  | .keep pattern invert =>
      let kept := pattern.fullMatch line.toList != invert
      .ok ⟨if kept then some line else none, action, files⟩
  | .substitute old new =>
      let changed := Text.substitute old.toList new.toList line.toList
      .ok ⟨some (String.ofList changed), action, files⟩
  | .rewrite pattern template all => do
      let parts ← orFault .pattern (pattern.readTemplate template)
      let changed := pattern.replace parts (if all then none else some 1) line.toList
      return ⟨some (String.ofList changed), action, files⟩
  | .copy path append => do
      let files ← orFault .files (files.write path (line ++ "\n").toUTF8 append)
      return ⟨some line, .copy path true, files⟩

/-- The end of a line's way through a chain: what is left of it or what went wrong,
the filters as they are from now on, and the files. -/
structure Passed where
  outcome : Except Fault (Option String)
  filters : List Filter
  files : Files.FileSystem

/-- The filters in front of others, which a line has passed. -/
def Passed.behind (filter : Filter) (passed : Passed) : Passed :=
  { passed with filters := filter :: passed.filters }

/-- Send a line through a chain of filters. -/
def passAll (files : Files.FileSystem) (line : String) (stdout : Bool) : List Filter → Passed
  | [] => ⟨.ok (some line), [], files⟩
  | filter :: rest =>
      if filter.sees stdout then
        match act files line filter.action with
        | .error fault => ⟨.error fault, filter :: rest, files⟩
        | .ok step =>
            let filter := { filter with action := step.action }
            match step.line with
            | none => ⟨.ok none, filter :: rest, step.files⟩
            | some line => (passAll step.files line stdout rest).behind filter
      else (passAll files line stdout rest).behind filter

end Filter

end Runbook
