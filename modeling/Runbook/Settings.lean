import Runbook.Association
import Runbook.Document.Value
import Runbook.Logged
import Runbook.TextFile

/-!
The settings of the program: defaults, a settings file, and overrides.
-/

namespace Runbook

open Document (Value Fields)

/-- Settings by name. Values given to names that are no settings are kept beside
them. -/
structure Settings where
  fields : Fields
  attributes : List (String × Value)
  deriving DecidableEq

namespace Settings

def homeVariable : String := "LAUNCHENV_HOME"

def fileName : String := "config.yaml"

/-- The home directory unless settings name another one. -/
def defaultHome (environment : List (String × String)) : String :=
  let named := Text.strip ((environment.lookup homeVariable).getD "").toList
  if named.isEmpty then Files.Path.below ((environment.lookup "HOME").getD "/root") ".launchenv"
  else String.ofList named

def belowHome (home : Value) (name : String) : Except Fault String :=
  match home with
  | .text path => .ok (Files.Path.below path name)
  | other =>
      .error (.type s!"expected str, bytes or os.PathLike object, not {other.typeName}")

/-- The settings that hold if nothing else is said. -/
def default (environment : List (String × String)) : Settings :=
  let home := defaultHome environment
  ⟨.ofPairs [
    (.text "home_dir", .text home),
    (.text "envs_dir", .text (Files.Path.below home "envs")),
    (.text "verbose", .boolean false),
    (.text "max_expansion_depth", .integer 100),
    (.text "kill_timeout", .decimal (.ofNat 5)),
    (.text "log_file", .null)], []⟩

def get? (settings : Settings) (name : String) : Option Value :=
  settings.fields.get? (.text name)

def get (settings : Settings) (name : String) : Value := (settings.get? name).getD .null

def has (settings : Settings) (name : String) : Bool := (settings.get? name).isSome

def set (settings : Settings) (name : String) (value : Value) : Settings :=
  { settings with fields := settings.fields.set (.text name) value }

def lookup (settings : Settings) (name : String) : Except Fault Value :=
  match (settings.attributes.lookup name).or (settings.get? name) with
  | some value => .ok value
  | none => .error (.attribute s!"Settings object has no attribute '{name}'")

def assign (settings : Settings) (name : String) (value : Value) : Settings :=
  if settings.has name then settings.set name value
  else { settings with attributes := Association.set settings.attributes name value }

/-- Set several settings. The directory of the profiles moves along with the home
directory unless it is set as well. -/
def update (settings : Settings) (changes : Fields) : Except Fault Settings := do
  let moved ← (do
    match changes.get? (.text "home_dir"), changes.get? (.text "envs_dir") with
    | some home, none =>
        return changes.set (.text "envs_dir") (.text (← belowHome home "envs"))
    | _, _ => return changes)
  let fields := moved.toList.foldl (fun fields (name, value) => fields.set name value)
    settings.fields
  return { settings with fields := fields }

/-- The settings of an environment with some of them changed. -/
def ofChanges (environment : List (String × String)) (changes : Fields) :
    Except Fault Settings :=
  (default environment).update changes

/-! ## Loading -/

def affirmative : List String := ["1", "true", "yes", "on"]

/-- Turn a setting that is a text into what the text says, if it says anything. -/
def coerce (settings : Settings) (name : String) (parse : String → Option Value) :
    Logged Settings := do
  match settings.get name with
  | .text text =>
      match parse text with
      | some value => return settings.set name value
      | none =>
          Logged.record .warning
            s!"settings.{name} should be numeric; got {Text.quoted text}"
          return settings
  | _ => return settings

/-- Turn settings that are texts into numbers and truth values. -/
def coerceAll (settings : Settings) : Logged Settings := do
  let settings ← settings.coerce "max_expansion_depth" fun text =>
    (Number.readInteger? text).map .integer
  let settings ← settings.coerce "kill_timeout" fun text => (Number.read? text).map .decimal
  settings.coerce "verbose" fun text =>
    let word := (String.ofList (Text.strip text.toList)).toLower
    some (.boolean (affirmative.contains word))

/-- The mapping in a settings file. -/
def ofFile (reader : Document.Reader) (files : Files.FileSystem) (path : String) :
    Logged Fields := do
  let text ← Logged.ofExcept (files.readText path)
  let value ← Logged.ofExcept (orFault .document (reader text))
  match if value.isTrue then value else .mapping .nil with
  | .mapping fields => return fields
  | _ =>
      let problem := s!"Settings file must contain a mapping: {path}"
      Logged.record .error problem
      throw (.value problem)

/-- The overrides that hold over the settings file. -/
def lasting (overrides : Fields) : Fields :=
  .ofList (overrides.toList.filter fun (name, value) =>
    value != .null && name != .text "home_dir")

/-- The settings file to read: the one given, or the one in the home directory. -/
def filePath (settings : Settings) (path : Option String) : Except Fault String :=
  match path with
  | some path => .ok (Files.Path.tidy path)
  | none => belowHome (settings.get "home_dir") fileName

/-- Load settings. A settings file that is named has to exist. -/
def load (reader : Document.Reader) (files : Files.FileSystem)
    (environment : List (String × String)) (path : Option String) (overrides : Fields) :
    Logged Settings := do
  let home := overrides.field "home_dir"
  let settings ← if home.isTrue then
      Logged.ofExcept (ofChanges environment (.ofPairs [(.text "home_dir", home)]))
    else pure (default environment)
  let file ← Logged.ofExcept (settings.filePath path)
  let settings ← (do
    if ← Logged.ofExcept (files.leadsToFile file) then
      let fields ← ofFile reader files file
      let settings ← Logged.ofExcept (settings.update fields)
      Logged.record .debug s!"Loaded settings from {file}"
      return settings
    else if path.isSome then throw (.missingSettings file)
    else return settings)
  let settings ← Logged.ofExcept (settings.update (lasting overrides))
  settings.coerceAll

end Settings

end Runbook
