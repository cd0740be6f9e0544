import Runbook.Logged
import Runbook.Profile
import Runbook.TextFile

/-!
Where profiles come from: a fixed list, or the files in the directories below one
directory, which hold documents.
-/

namespace Runbook

inductive Profiles
  | listed (profiles : List Profile)
  | directory (reader : Document.Reader) (path : String)

namespace Profiles

def fileName : String := "env.yaml"

def isSafe (c : Char) : Bool := c.isAlphanum || c == '.' || c == '-' || c == '_'

def directoryName (name : String) : String :=
  String.ofList (name.toList.map fun c => if isSafe c then c else '_')

def ofText (reader : Document.Reader) (text : String) : Except Fault Profile := do
  let value ← orFault .document (reader text)
  Profile.ofValue (if value.isTrue then value else .mapping .nil)

/-- Whether a file with such a fault is passed over. -/
def isPassedOver (fault : Fault) : Bool := fault.isSystem || fault.isValue || fault.isDocument

/-- The profile in a file. A file that does not describe one is passed over. -/
def ofFile (reader : Document.Reader) (files : Files.FileSystem) (path : String) :
    Logged (Option Profile) := do
  let path := Files.Path.tidy path
  if !(← Logged.ofExcept (files.leadsToFile path)) then return none
  else
    match files.readText path >>= ofText reader with
    | .ok profile => return some profile
    | .error fault =>
        if isPassedOver fault then
          Logged.record .error s!"Failed to read environment {path}: {fault.message}"
          return none
        else throw fault

def readDirectory (reader : Document.Reader) (files : Files.FileSystem) (path name : String) :
    Logged (Option Profile) :=
  ofFile reader files (Files.Path.below (Files.Path.below path name) fileName)

/-- Listed profiles by name. The last profile with a name counts. -/
def byName (profiles : List Profile) : List (String × Profile) :=
  Association.ofList (profiles.map fun profile => (profile.name, profile))

def resolve (profiles : Profiles) (files : Files.FileSystem) (name : String) :
    Logged (Option Profile) :=
  match profiles with
  | .listed profiles => return (byName profiles).lookup name
  | .directory reader path => readDirectory reader files path (directoryName name)

def readAll (reader : Document.Reader) (files : Files.FileSystem) (path : String) :
    List String → Logged (List Profile)
  | [] => return []
  | name :: rest => do
      let profile ← readDirectory reader files path name
      let others ← readAll reader files path rest
      return profile.toList ++ others

/-- All profiles, sorted by name. -/
def list (profiles : Profiles) (files : Files.FileSystem) : Logged (List Profile) := do
  match profiles with
  | .listed profiles => return (Association.sorted (byName profiles)).map (·.2)
  | .directory reader path => do
      let path := Files.Path.tidy path
      match ← Logged.ofExcept (orFault .files (files.probe path)) with
      | some (.directory entries) =>
          let names := (entries.toList.map (·.1)).mergeSort fun a b => a ≤ b
          let profiles ← readAll reader files path names
          return profiles.mergeSort fun a b => a.name ≤ b.name
      | some .closed => throw (.files (.at .denied path))
      | _ => return []

end Profiles

end Runbook
