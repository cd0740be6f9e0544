import Runbook.Fault
import Runbook.Files.Tree
import Runbook.Log

/-!
Setting up the log: which records are made, and where they go.
-/

namespace Runbook.Log

/-- A log that is ready, and what is to be said if its file cannot be opened. -/
structure Opened where
  setup : Setup
  files : Files.FileSystem
  complaint : Option String

def leastLevel (debug : Bool) : Level := if debug then .debug else .info

/-- The outlet to the console, unless it is to be quiet. -/
def consoleOutlets (quiet debug : Bool) : List Outlet :=
  if quiet then [] else [.console (if debug then .debug else .warning)]

/-- Set up a log. Its file, if it has one, is started anew. -/
def openLog (files : Files.FileSystem) (file : Option String) (quiet debug : Bool) :
    Except Fault Opened :=
  let least := leastLevel debug
  let console := consoleOutlets quiet debug
  match file with
  | none | some "" => .ok ⟨⟨least, console⟩, files, none⟩
  | some name =>
      let path := Files.Path.absolute files.workingPath name
      match files.write path ByteArray.empty false with
      | .ok files => .ok ⟨⟨least, .file path least :: console⟩, files, none⟩
      | .error error =>
          let fault := Fault.files error
          if fault.isSystem then
            let complaint := s!"[logging] Could not open log file '{name}': {fault.message}"
            .ok ⟨⟨least, console⟩, files, some complaint⟩
          else .error fault

/-- Add what records show to the log files. A file that is gone stays gone. -/
def Setup.writeFiles (setup : Setup) (time : String) (records : List Record)
    (files : Files.FileSystem) : Files.FileSystem :=
  setup.outlets.foldl (fun files outlet =>
    match outlet with
    | .console _ => files
    | .file path _ =>
        let text := String.join (records.map (setup.fileText time path))
        if files.isFile path then
          match files.write path text.toUTF8 true with
          | .ok files => files
          | .error _ => files
        else files) files

end Runbook.Log
