import Runbook.Host.Shell.Interpreter

/-!
The programs of a host and how they are started: the launcher that stands for a host with a
shell and a few small programs.
-/

namespace Runbook.Host

def programDirectory : List String := ["usr", "bin"]

def programNames : List String := "sh" :: Tools.names

/-- The entries of a host without any files of its users. -/
def emptyHost : Files.Node :=
  let programs := programNames.map fun name => (name, Files.Node.file ByteArray.empty)
  let usr := Files.Entries.ofList [("bin", .directory (.ofList programs))]
  .directory (.ofList [("bin", .link "usr/bin"), ("dev", .directory (.ofList
    [("null", .file ByteArray.empty)])), ("tmp", .emptyDirectory), ("usr", .directory usr)])

def programAt (files : Files.FileSystem) (path : String) : Except Files.Fault String :=
  match files.look path with
  | .ok (place, .file _) =>
      match place.getLast? with
      | some name =>
          if place.dropLast == programDirectory && programNames.contains name then .ok name
          else .error .denied
      | none => .error .denied
  | .ok _ => .error .denied
  | .error (.at fault _) => .error fault
  | .error _ => .error .missing

/-- The first program that is found under some paths. If there is none, it matters
whether something else was found. -/
def firstProgram (files : Files.FileSystem) :
    (fault : Files.Fault) → List String → Except Files.Fault String
  | fault, [] => .error fault
  | fault, path :: rest =>
      match programAt files path with
      | .ok name => .ok name
      | .error found =>
          let keeps := found == .missing || found == .notADirectory
          firstProgram files (if keeps then fault else found) rest

/-- The program that a name stands for. A name without slashes is looked for in the
directories of the search path. -/
def findProgram (files : Files.FileSystem) (environment : List (String × String))
    (name : String) : Except Files.Fault String :=
  if name.toList.contains '/' then programAt files name
  else
    let search := (environment.lookup "PATH").getD "/bin:/usr/bin"
    let directories := (Files.Path.splitOn ':' search.toList).map String.ofList
    firstProgram files .missing (directories.map fun directory => Files.Path.join directory name)

def startDirectory (files : Files.FileSystem) (directory : Option String) :
    Except Fault Files.FileSystem :=
  match directory with
  | none => .ok files
  | some path =>
      match files.look path with
      | .ok (place, .directory _) => .ok { files with workingDirectory := place }
      | .ok (_, .closed) => .error (.files (.at .denied path))
      | .ok _ => .error (.files (.at .notADirectory path))
      | .error error => .error (.files error)

def isClean (text : String) : Bool := !text.toList.contains '\x00'

def checkLaunch (launch : Launch) : Except Fault Unit := do
  if launch.environment.any fun entry => entry.1.toList.contains '=' then
    throw (.value "illegal environment variable name")
  else
    let texts := launch.arguments ++ launch.directory.toList ++
      launch.environment.flatMap fun (name, value) => [name, value]
    if !texts.all isClean then throw (.files .nullCharacter)

def shellFuel : Nat := 100000

/-- What a program does, once it is known which one it is. -/
def activityOf (identity : Nat) (files : Files.FileSystem) (launch : Launch) (program : String) :
    Activity :=
  let arguments := launch.arguments.tail
  match Tools.table.lookup program with
  | some tool =>
      let result := tool ⟨launch.program, arguments, launch.environment, [], files⟩
      ⟨identity, actionsOf [] [] result.steps, .exited result.code, files⟩
  | none =>
      Shell.activity shellFuel identity files launch.environment launch.program arguments

def launcher (identity : Nat) : Launcher := fun files launch => do
  checkLaunch launch
  let inside ← startDirectory files launch.directory
  match findProgram inside launch.environment launch.program with
  | .error fault => throw (.files (.at fault launch.program))
  | .ok program =>
      let activity := activityOf identity inside launch program
      return { activity with
        files := { activity.files with workingDirectory := files.workingDirectory } }

end Runbook.Host
