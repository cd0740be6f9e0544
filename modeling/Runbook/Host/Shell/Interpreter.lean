import Runbook.Association
import Runbook.Host.Shell.Arithmetic
import Runbook.Host.Shell.Parser
import Runbook.Host.Tools

/-!
Running scripts for the host's shell, which stands for the shell that a host brings along. Only
`Host.launcher` gets here, and no result about runs depends on what the shell does.
-/

namespace Runbook.Host.Shell

inductive Target
  | stream (stdout : Bool)
  | captured
  | file (path : String)
  deriving DecidableEq, Repr

/-- The state of a shell. Steps and captured bytes are held newest first. -/
structure State where
  name : String
  arguments : List String
  bindings : List (String × String)
  exported : List String
  status : Nat
  files : Files.FileSystem
  steps : List Step
  stdout : Target
  stderr : Target
  input : List UInt8
  captured : List UInt8
  deaf : Bool
  identity : Nat

/-- Why a statement does not run to its end. -/
inductive Stop
  | ended (ending : Ending)
  | left
  | again
  deriving DecidableEq, Repr

abbrev Running := ExceptT Stop (StateM State)

/-! ## Output -/

def emit (step : Step) (state : State) : State := { state with steps := step :: state.steps }

def writeTo (target : Target) (bytes : List UInt8) : Running Unit :=
  modify fun state =>
    match target with
    | .stream stdout => if bytes.isEmpty then state else emit (.write stdout bytes) state
    | .captured => { state with captured := bytes.reverse ++ state.captured }
    | .file path =>
        if path == "/dev/null" then state
        else
          match state.files.write path ⟨bytes.toArray⟩ true with
          | .ok files => { state with files := files }
          | .error _ => state

def say (bytes : List UInt8) : Running Unit := do writeTo (← get).stdout bytes

def complain (message : String) : Running Unit := do
  let state ← get
  writeTo state.stderr (bytesOf s!"{state.name}: 1: {message}\n")

def setStatus (status : Nat) : Running Unit := modify fun state => { state with status := status }

def finish {α : Type} (ending : Ending) : Running α := throw (.ended ending)

/-- Do the steps of a program. While it waits it heeds termination only if the shell
does. -/
def takeSteps : List Step → Running Unit
  | [] => return ()
  | .write stdout bytes :: rest => do
      let state ← get
      writeTo (if stdout then state.stdout else state.stderr) bytes
      takeSteps rest
  | .pause seconds _ :: rest => do
      modify fun state => emit (.pause seconds (!state.deaf)) state
      takeSteps rest

/-! ## Variables -/

def valueOf (name : String) (state : State) : String :=
  match name with
  | "?" => toString state.status
  | "#" => toString state.arguments.length
  | "$" => toString state.identity
  | "0" => state.name
  | "@" | "*" => " ".intercalate state.arguments
  | "!" | "-" => ""
  | _ =>
      match name.toNat? with
      | some index => (state.arguments[index - 1]?).getD ""
      | none => (state.bindings.lookup name).getD ""

def isSet (name : String) (state : State) : Bool :=
  match name.toNat? with
  | some index => index ≤ state.arguments.length
  | none => (state.bindings.lookup name).isSome

/-- Whether a variable has no value. With `emptyToo` an empty one does not count. -/
def isMissing (emptyToo : Bool) (name : String) (state : State) : Bool :=
  !isSet name state || (emptyToo && valueOf name state == "")

def assign (name value : String) : Running Unit :=
  modify fun state => { state with bindings := Association.set state.bindings name value }

def environmentOf (state : State) : List (String × String) :=
  state.bindings.filter fun entry => state.exported.contains entry.1

/-! ## Words -/

/-- The fields made of words so far, and the one in progress. -/
structure Fields where
  complete : List String
  current : Option (List Char)

namespace Fields

def empty : Fields := ⟨[], none⟩

def append (fields : Fields) (text : List Char) : Fields :=
  { fields with current := some ((fields.current.getD []) ++ text) }

def close (fields : Fields) : Fields :=
  match fields.current with
  | none => fields
  | some text => ⟨fields.complete ++ [String.ofList text], none⟩

/-- Add text that is split at blanks. -/
def split (fields : Fields) (text : List Char) : Fields :=
  text.foldl (fun fields c =>
    if c == ' ' || c == '\t' || c == '\n' then fields.close else fields.append [c]) fields

def add (fields : Fields) (quoted : Bool) (text : List Char) : Fields :=
  if quoted then fields.append text else fields.split text

/-- Add texts that are fields of their own. -/
def addEach (fields : Fields) : List String → Fields
  | [] => fields
  | [text] => fields.append text.toList
  | text :: rest => ((fields.append text.toList).close).addEach rest

end Fields

def integerVariable (state : State) (name : String) : Int :=
  (Number.readInteger? (valueOf name state)).getD 0

/-- Bytes as text without line ends behind it. -/
def outputText (bytes : List UInt8) : List Char :=
  Text.dropEndWhile (· == '\n') (Text.Utf8.decodeLenient bytes)

def attempt (body : Running Unit) : Running (Except Stop Unit) := fun state =>
  let (result, state) := body.run.run state
  (.ok result, state)

/-- Run something in a shell of its own. Its end is no more than a status. -/
def apart (body : Running Unit) : Running Unit := fun state =>
  let (result, inner) := body.run.run state
  let status := match result with
    | .error (.ended (.exited code)) => code
    | .error (.ended (.killed signal)) => 128 + signal
    | _ => inner.status
  (.ok (), { state with
    status := status
    files := { inner.files with workingDirectory := state.files.workingDirectory }
    steps := inner.steps
    captured := inner.captured })

def capture (body : Running Unit) : Running (List UInt8) := do
  let before ← get
  set { before with captured := [], stdout := .captured }
  apart body
  let after ← get
  set { after with captured := before.captured, stdout := before.stdout }
  return after.captured.reverse

/-- Expand one part. Scripts in it are run by `inner`. -/
def expandPart (inner : List Char → Running Unit) (fields : Fields) : Part → Running Fields
  | .text _ text => return fields.append text
  | .variable quoted name => do
      let state ← get
      if name == "@" && quoted then return fields.addEach state.arguments
      else return fields.add quoted (valueOf name state).toList
  | .fallback quoted name emptyToo value => do
      let state ← get
      return fields.add quoted
        (if isMissing emptyToo name state then value else (valueOf name state).toList)
  | .replacement quoted name emptyToo value => do
      return fields.add quoted (if isMissing emptyToo name (← get) then [] else value)
  | .length name => do return fields.append (toString (valueOf name (← get)).length).toList
  | .arithmetic quoted expression => do
      let state ← get
      let written ← (do
        let parts := (quotedParts (expression.length + 2) (expression ++ ['"'])).map (·.1)
        return (parts.getD []).flatMap fun
          | .text _ text => text
          | .variable _ name => (valueOf name state).toList
          | _ => [])
      match Arithmetic.evaluate (integerVariable state) written with
      | some value => return fields.add quoted (toString value).toList
      | none =>
          complain s!"arithmetic expression: \"{String.ofList written}\""
          finish (.exited 2)
  | .output quoted script => do
      let bytes ← capture (inner script)
      return fields.add quoted (outputText bytes)

def expandParts (inner : List Char → Running Unit) : Fields → Word → Running Fields
  | fields, [] => return fields
  | fields, part :: rest => do expandParts inner (← expandPart inner fields part) rest

def expandWords (inner : List Char → Running Unit) : List Word → Running (List String)
  | [] => return []
  | word :: rest => do
      let fields := (← expandParts inner .empty word).close.complete
      return fields ++ (← expandWords inner rest)

/-- A part as it would be between quotes. -/
def Part.whole : Part → Part
  | .variable _ name => .variable true name
  | .fallback _ name emptyToo value => .fallback true name emptyToo value
  | .replacement _ name emptyToo value => .replacement true name emptyToo value
  | .arithmetic _ expression => .arithmetic true expression
  | .output _ script => .output true script
  | part => part

/-- A word as one text, which is not split. -/
def expandText (inner : List Char → Running Unit) (word : Word) : Running String := do
  return " ".intercalate (← expandWords inner [word.map Part.whole])

/-! ## Redirections -/

def openReason (writing : Bool) : Files.Error → String
  | .at .missing _ | .at .notADirectory _ =>
      if writing then "Directory nonexistent" else "No such file"
  | error => Tools.reasonOf error

/-- Send a stream of the current command somewhere else. -/
def redirect (inner : List Char → Running Unit) (redirection : Redirection) : Running Unit := do
  let target ← expandText inner redirection.target
  let state ← get
  let put (target : Target) : Running Unit :=
    modify fun state =>
      if redirection.stream == 2 then { state with stderr := target }
      else { state with stdout := target }
  match redirection.direction with
  | .join => put (if target == "2" then state.stderr else state.stdout)
  | .read =>
      if target == "/dev/null" then set { state with input := [] }
      else
        match state.files.read target with
        | .ok content => set { state with input := content.toList }
        | .error error =>
            complain s!"cannot open {target}: {openReason false error}"
            finish (.exited 2)
  | .write | .append =>
      if target == "/dev/null" then put (.file target)
      else
        match state.files.write target ByteArray.empty (redirection.direction == .append) with
        | .ok files =>
            set { state with files := files }
            put (.file target)
        | .error error =>
            complain s!"cannot create {target}: {openReason true error}"
            finish (.exited 2)

def redirectAll (inner : List Char → Running Unit) : List Redirection → Running Unit
  | [] => return ()
  | redirection :: rest => do
      redirect inner redirection
      redirectAll inner rest

/-- Run something with redirections, which end with it. It is not run if one of them
fails. -/
def redirected (inner : List Char → Running Unit) (redirections : List Redirection)
    (body : Running Unit) : Running Unit := do
  let before ← get
  match ← attempt (redirectAll inner redirections) with
  | .ok () => body
  | .error _ => setStatus 2
  let reads := redirections.any fun redirection => redirection.direction == .read
  modify fun state =>
    { state with
      stdout := before.stdout
      stderr := before.stderr
      input := if reads then before.input else state.input }

/-! ## Commands -/

def signals : List (String × Nat) := [("HUP", 1), ("INT", 2), ("QUIT", 3), ("KILL", 9),
  ("USR1", 10), ("USR2", 12), ("PIPE", 13), ("ALRM", 14), ("TERM", 15)]

def signalOf? (text : String) : Option Nat :=
  let name := if "SIG".toList.isPrefixOf text.toList then String.ofList (text.toList.drop 3) else text
  text.toNat?.or (signals.lookup name)

/-- Send a signal. Only the shell itself can be meant. -/
def kill (arguments : List String) : Running Unit := do
  let (signal, targets) := match arguments with
    | "-s" :: name :: rest => (signalOf? name, rest)
    | first :: rest =>
        match first.toList with
        | '-' :: name => (signalOf? (String.ofList name), rest)
        | _ => (some terminationSignal, first :: rest)
    | [] => (some terminationSignal, [])
  let state ← get
  match signal with
  | none => setStatus 2
  | some signal =>
      if targets.contains (toString state.identity) then
        if signal == 0 || (signal == terminationSignal && state.deaf) then setStatus 0
        else finish (.killed signal)
      else
        complain "kill: No such process"
        setStatus 1

/-- Write the arguments on one line, with all escapes written out. -/
def echo (arguments : List String) : Running Unit := do
  let (words, ending) := match arguments with
    | "-n" :: rest => (rest, [])
    | words => (words, [newline])
  let (bytes, early) := Format.unescapeAll false (" ".intercalate words)
  say (bytes ++ if early then [] else ending)
  setStatus 0

def changeDirectory (path : String) : Running Unit := do
  let state ← get
  match state.files.look path with
  | .ok (place, .directory _) =>
      set { state with files := { state.files with workingDirectory := place } }
      setStatus 0
  | _ =>
      complain s!"cd: can't cd to {path}"
      setStatus 2

def toolNamed? (state : State) (name : String) : Option String :=
  if name.toList.contains '/' then
    match state.files.look name with
    | .ok (["usr", "bin", tool], .file _) => some tool
    | _ => none
  else if Tools.names.contains name || name == "sh" then some name
  else none

def runTool (tool name : String) (arguments : List String) : Running Unit := do
  let state ← get
  match Tools.table.lookup tool with
  | some program =>
      let result := program ⟨name, arguments, environmentOf state, state.input, state.files⟩
      takeSteps result.steps
      setStatus result.code
  | none =>
      complain s!"{name}: not found"
      setStatus 127

/-- Let the shell ignore requests to terminate, or heed them again. -/
def trap (arguments : List String) : Running Unit := do
  match arguments with
  | ["", signal] | ["--", "", signal] =>
      if signalOf? signal == some terminationSignal then
        modify fun state => { state with deaf := true }
  | ["-", signal] =>
      if signalOf? signal == some terminationSignal then
        modify fun state => { state with deaf := false }
  | _ => pure ()
  setStatus 0

/-- Assign or export what arguments say. -/
def exportAll (arguments : List String) : Running Unit := do
  for argument in arguments do
    let name := argument.toList.takeWhile (· != '=')
    match argument.toList.drop name.length with
    | _ :: value => assign (String.ofList name) (String.ofList value)
    | [] => pure ()
    modify fun state => { state with exported := String.ofList name :: state.exported }
  setStatus 0

/-- End the shell with the status that is given, or else with the last one. -/
def exit (arguments : List String) : Running Unit := do
  match arguments with
  | [] => finish (.exited (← get).status)
  | text :: _ =>
      match text.toNat? with
      | some status => finish (.exited (status % 256))
      | none =>
          complain s!"exit: Illegal number: {text}"
          finish (.exited 2)

def isBlank (c : Char) : Bool := c == ' ' || c == '\t'

/-- Give variables the words of a line. The last one takes all that is left. -/
def assignWords (line : List Char) : List String → Running Unit
  | [] => return ()
  | [name] => assign name (String.ofList (Text.dropEndWhile isBlank (line.dropWhile isBlank)))
  | name :: rest => do
      let line := line.dropWhile isBlank
      let word := line.takeWhile fun c => !isBlank c
      assign name (String.ofList word)
      assignWords (line.drop word.length) rest

def read (arguments : List String) : Running Unit := do
  let state ← get
  let line := state.input.takeWhile (· != newline)
  let rest := state.input.drop line.length
  assignWords (Text.Utf8.decodeLenient line) (arguments.filter (· != "-r"))
  modify fun state => { state with
    input := rest.tail
    status := if rest.isEmpty then 1 else 0 }

/-- Run a command by its name. Scripts that it names are run by `inner`, and whole
shells by `shell`. -/
def runNamed (inner : List Char → Running Unit) (shell : List String → Running Unit)
    (name : String) (arguments : List String) : Running Unit := do
  match name with
  | ":" | "true" | "wait" => setStatus 0
  | "false" => setStatus 1
  | "echo" => echo arguments
  | "exit" => exit arguments
  | "kill" => kill arguments
  | "trap" => trap arguments
  | "export" => exportAll arguments
  | "cd" => changeDirectory (arguments.headD (valueOf "HOME" (← get)))
  | "break" => throw .left
  | "continue" => throw .again
  | "eval" => inner (" ".intercalate arguments).toList
  | "shift" =>
      modify fun state => { state with arguments := state.arguments.tail, status := 0 }
  | "set" =>
      match arguments with
      | "--" :: rest => modify fun state => { state with arguments := rest, status := 0 }
      | _ => setStatus 0
  | "unset" =>
      modify fun state => { state with
        bindings := state.bindings.filter fun entry => !arguments.contains entry.1
        status := 0 }
  | "read" => read arguments
  | "exec" =>
      match arguments with
      | [] => setStatus 0
      | name :: rest =>
          match toolNamed? (← get) name with
          | some "sh" => shell rest
          | some tool => runTool tool name rest
          | none =>
              complain s!"exec: {name}: not found"
              setStatus 127
          finish (.exited (← get).status)
  | _ =>
      match toolNamed? (← get) name with
      | some "sh" => shell arguments
      | some tool => runTool tool name arguments
      | none =>
          complain s!"{name}: not found"
          setStatus 127

/-! ## Statements -/

def assignAll (inner : List Char → Running Unit) : List (String × Word) → Running Unit
  | [] => return ()
  | (name, word) :: rest => do
      assign name (← expandText inner word)
      assignAll inner rest

/-- Keep going round a loop until its condition ends it. -/
def repeatWhile (inverted : Bool) (condition body : Running Unit) : (fuel : Nat) → Running Unit
  | 0 => return ()
  | fuel + 1 => do
      condition
      if ((← get).status == 0) == inverted then setStatus 0
      else
        match ← attempt body with
        | .ok () | .error .again => repeatWhile inverted condition body fuel
        | .error .left => setStatus 0
        | .error stop => throw stop

def repeatEach (name : String) (body : Running Unit) : List String → Running Unit
  | [] => return ()
  | value :: rest => do
      assign name value
      match ← attempt body with
      | .ok () | .error .again => repeatEach name body rest
      | .error .left => setStatus 0
      | .error stop => throw stop

/-- Run a simple command. Assignments in front of a name hold for that command only. -/
def runSimple (inner : List Char → Running Unit) (shell : List String → Running Unit)
    (assignments : List (String × Word)) (words : List Word) : Running Unit := do
  match ← expandWords inner words with
  | [] =>
      setStatus 0
      assignAll inner assignments
  | name :: arguments =>
      let before ← get
      assignAll inner assignments
      modify fun state => { state with
        exported := assignments.map (·.1) ++ state.exported }
      runNamed inner shell name arguments
      if !assignments.isEmpty then
        modify fun state => { state with
          bindings := before.bindings
          exported := before.exported }

def run (inner : List Char → Running Unit) (shell : List String → Running Unit) (fuel : Nat) :
    Statement → Running Unit
  | .nothing => return ()
  | .simple assignments words redirections =>
      if words == [[.text false ['e', 'x', 'e', 'c']]] then redirectAll inner redirections
      else redirected inner redirections (runSimple inner shell assignments words)
  | .redirected body redirections =>
      redirected inner redirections (run inner shell fuel body)
  | .pipe left right => do
      let bytes ← capture (run inner shell fuel left)
      let before ← get
      set { before with input := bytes }
      apart (run inner shell fuel right)
      modify fun state => { state with input := before.input }
  | .both left right => do
      run inner shell fuel left
      if (← get).status == 0 then run inner shell fuel right
  | .either left right => do
      run inner shell fuel left
      if (← get).status != 0 then run inner shell fuel right
  | .negated body => do
      run inner shell fuel body
      setStatus (if (← get).status == 0 then 1 else 0)
  | .sequence first second => do
      run inner shell fuel first
      run inner shell fuel second
  | .choice condition body otherwise => do
      run inner shell fuel condition
      if (← get).status == 0 then run inner shell fuel body
      else
        setStatus 0
        run inner shell fuel otherwise
  | .repeated inverted condition body =>
      repeatWhile inverted (run inner shell fuel condition) (run inner shell fuel body) fuel
  | .each name words body => do
      let values ← expandWords inner words
      setStatus 0
      repeatEach name (run inner shell fuel body) values
  | .apart body => apart (run inner shell fuel body)

/-- What a shell is told to run: a script, the name that it gets, and its arguments. -/
def scriptOf (name : String) (state : State) :
    List String → Option (String × String × List String)
  | "-c" :: script :: rest => some (script, rest.headD name, rest.tail)
  | path :: rest =>
      match state.files.readText path with
      | .ok text => some (text, path, rest)
      | .error _ => none
  | [] => some (String.ofList (outputText state.input), name, [])

mutual

/-- Run a script within the current shell. -/
def runScript : (fuel : Nat) → List Char → Running Unit
  | 0, _ => return ()
  | fuel + 1, script => do
      match parse? script with
      | some statement => run (runScript fuel) (runShell fuel) fuel statement
      | none =>
          complain "Syntax error"
          finish (.exited 2)

def runShell : (fuel : Nat) → List String → Running Unit
  | 0, _ => return ()
  | fuel + 1, arguments => do
      let state ← get
      match scriptOf "sh" state arguments with
      | none => setStatus 127
      | some (script, name, rest) =>
          let bindings := environmentOf state
          apart do
            set { state with
              name := name
              arguments := rest
              bindings := bindings
              identity := state.identity + 1 }
            runScript fuel script.toList

end

def activity (fuel identity : Nat) (files : Files.FileSystem)
    (environment : List (String × String)) (name : String) (arguments : List String) :
    Activity :=
  let bindings := Association.set environment "PWD" files.workingPath
  let start : State := ⟨name, [], bindings, bindings.map (·.1), 0, files, [],
    .stream true, .stream false, [], [], false, identity⟩
  match scriptOf name start arguments with
  | none => ⟨identity, [.line false s!"{name}: 0: cannot open the script"], .exited 2, files⟩
  | some (script, name, rest) =>
      let (result, state) := (runScript fuel script.toList).run.run
        { start with name := name, arguments := rest }
      let ending := match result with
        | .error (.ended ending) => ending
        | _ => .exited state.status
      ⟨identity, actionsOf [] [] state.steps.reverse, ending,
        { state.files with workingDirectory := files.workingDirectory }⟩

end Runbook.Host.Shell
