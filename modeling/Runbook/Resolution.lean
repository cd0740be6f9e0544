import Runbook.Command
import Runbook.Filter
import Runbook.Profiles

/-!
What the tokens of a line ask for. The checks are made in a fixed order, and the
first that fails decides the error.
-/

namespace Runbook

structure Setup where
  command : Command
  profile : Option Profile
  filters : List Filter
  options : List String

/-- What a line asks for: a command, help on one, or nothing that can be done. -/
inductive Resolution
  | ready (setup : Setup)
  | help (command : Command)
  | refused (error : ScriptError)

namespace Resolution

def pipe : String := "|"

def helpOption : String := "--help"

/-- The runs of tokens between pipes. A pipe at the end does not start a run. -/
def segments : (current : List String) → List String → List (List String)
  | current, [] => if current.isEmpty then [] else [current.reverse]
  | current, token :: rest =>
      if token == pipe then
        if current.isEmpty then segments [] rest else current.reverse :: segments [] rest
      else segments (token :: current) rest

def ownOptions (tokens : List String) : List String := tokens.takeWhile (· != pipe)

def filterTokens (tokens : List String) : List (List String) :=
  segments [] (tokens.dropWhile (· != pipe)).tail

/-- Configure filters one after the other, up to the first that cannot be. -/
def configureAll (characters : Pattern.CharacterNames) (files : Files.FileSystem) :
    List (List String) → Logged (Except ScriptError (List Filter))
  | [] => return .ok []
  | tokens :: rest => do
      match ← Filter.configure characters files tokens with
      | .error error => return .error error
      | .ok filter => return (← configureAll characters files rest).map (filter :: ·)

/-- The filters that the tokens behind a command ask for. -/
def filtersFor (characters : Pattern.CharacterNames) (files : Files.FileSystem)
    (command : Command) (tokens : List String) :
    Logged (Except ScriptError (List Filter)) := do
  let specifications := filterTokens tokens
  if specifications.isEmpty then return .ok []
  else if !command.takesFilters then
    return .error (.misplaced (some s!"Command '{command.name}' does not support filters!"))
  else configureAll characters files specifications

/-- The profile at the start of the tokens, and the tokens behind it. -/
def takeProfile (profiles : Profiles) (files : Files.FileSystem) (command : Command)
    (tokens : List String) :
    Logged (Except ScriptError (Option Profile × List String)) := do
  if !command.needsProfile then return .ok (none, tokens)
  else
    match tokens with
    | [] => return .error (.missingProfile command.name)
    | name :: rest =>
        if name == pipe then return .error (.missingProfile command.name)
        else
          match ← profiles.resolve files name with
          | none => return .error (.unknownProfile name)
          | some profile => return .ok (some profile, rest)

def ofCommand (characters : Pattern.CharacterNames) (profiles : Profiles)
    (files : Files.FileSystem) (command : Command) (tokens : List String) :
    Logged Resolution := do
  if (ownOptions tokens).contains helpOption then return .help command
  else
    match ← takeProfile profiles files command tokens with
    | .error error => return .refused error
    | .ok (profile, tokens) =>
        match ← filtersFor characters files command tokens with
        | .error error => return .refused error
        | .ok filters =>
            let options := ownOptions tokens
            Logged.record .debug
              s!"Resolved command '{command.name}' with options {Text.quotedList options}"
            return .ready ⟨command, profile, filters, options⟩

def ofTokens (characters : Pattern.CharacterNames) (profiles : Profiles)
    (files : Files.FileSystem) (inScript : Bool) (tokens : List String) :
    Logged Resolution := do
  match tokens with
  | [] => return .refused (.misplaced (some "Expected command, found empty line!"))
  | name :: rest =>
      match Command.find? inScript name with
      | none => return .refused (.unknownCommand name)
      | some command => ofCommand characters profiles files command rest

end Resolution

end Runbook
