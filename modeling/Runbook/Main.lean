import Runbook.Cli
import Runbook.Document.Build
import Runbook.Files.Changes
import Runbook.Host.Machine
import Runbook.Text.CharacterName
import Std.Time.Format

/-!
The program as it is started from a terminal. The files below the working directory
and the home directory of the program are read into a file system of the host; the
program runs on that, and what it changes is written back afterwards.
-/

namespace Runbook.Terminal

open Files (Change Entries FileSystem Node)

def variableNames : List String :=
  ["PATH", "HOME", "LAUNCHENV_HOME", "COLUMNS", "LANG", "PWD", "SHELL", "TERM", "TZ", "USER"]

/-- How many directories a path may go down from where the reading of files begins. -/
def depthLimit : Nat := 24

/-- The number by which the programs that a run starts are known. -/
def identity : Nat := 1000

def fuel : Nat := 1000000000

def readEnvironment : IO (List (String × String)) := do
  let found ← variableNames.mapM fun name => do return (name, ← IO.getEnv name)
  return found.filterMap fun (name, value) => value.map (name, ·)

/-- The names of the entries of a directory, unless it may not be listed. -/
def readNames? (directory : String) : IO (Option (List String)) := do
  try
    let place ← IO.FS.realPath directory
    return some ((← place.readDir).toList.map (·.fileName))
  catch _ => return none

def readNode? : (depth : Nat) → (path : String) → IO (Option Node)
  | 0, _ => return none
  | depth + 1, path => do
      try
        let place ← IO.FS.realPath path
        if ← place.isDir then
          let some names ← readNames? path | return some .closed
          let found ← names.mapM fun name => do
            let node ← readNode? depth (Files.Path.join path name)
            return node.map (name, ·)
          return some (.directory (.ofList (found.filterMap id)))
        else return some (.file (← IO.FS.readBinFile path))
      catch _ => return none

/-- Put what lies at an absolute path into a tree, together with the directories that
lead to it. -/
def addNode (node : Node) : (names : List String) → (root : Node) → Node
  | [], _ => node
  | name :: rest, root =>
      let entries := match root with
        | .directory entries => entries
        | _ => .nil
      let below := addNode node rest ((entries.get? name).getD .emptyDirectory)
      .directory (entries.set name below)

/-- Read what lies at a path into a tree, unless it is already there. -/
def readInto (root : Node) (path : String) : IO Node := do
  let names := (Files.Path.names (Files.Path.normalize path)).filter (· != "")
  if (root.get? names).isSome then return root
  else
    match ← readNode? depthLimit path with
    | some node => return addNode node names root
    | none => return root

def apply : Change → IO Unit
  | .create directory => IO.FS.createDirAll directory
  | .write file content => IO.FS.writeBinFile file content
  | .removeFile path => IO.FS.removeFile path
  | .removeDirectory path => IO.FS.removeDirAll path

def readTime : IO String := do
  return (← Std.Time.PlainDateTime.now).format "uuuu-MM-dd HH:mm:ss,SSS"

/-- Run the program on the files of this machine. -/
def run (arguments : List String) : IO UInt32 := do
  let environment ← readEnvironment
  let here := toString (← IO.currentDir)
  let home := Files.Path.absolute here (Settings.defaultHome environment)
  let root ← readInto (← readInto Host.emptyHost here) home
  let files : FileSystem := ⟨root, (Files.Path.names here).filter (· != "")⟩
  let machine : Cli.Machine :=
    ⟨files, environment, Host.launcher identity, Document.read, Text.codeNamed?, ← readTime⟩
  match Cli.run fuel machine arguments with
  | none =>
      IO.eprintln "the run did not come to an end"
      return 1
  | some outcome =>
      (files.changes outcome.files).forM apply
      match outcome.result with
      | .ok result =>
          IO.print result.stdout
          IO.eprint result.stderr
          return result.code.toUInt32
      | .error fault =>
          IO.eprintln fault.report
          return 1

end Runbook.Terminal

def main (arguments : List String) : IO UInt32 := Runbook.Terminal.run arguments
