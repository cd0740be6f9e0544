import Runbook.Files.Listing
import Runbook.Host.Format
import Runbook.TextFile

/-!
Small programs that every host has. They stand for programs that belong to the host: a run
reaches them through its launcher only, and what is proved of runs holds with any launcher.
-/

namespace Runbook.Host.Tools

structure Invocation where
  name : String
  arguments : List String
  environment : List (String × String)
  input : List UInt8
  files : Files.FileSystem

structure Result where
  steps : List Step
  code : Nat

def say (text : String) : Result := ⟨[.write true (bytesOf text)], 0⟩

def complain (text : String) : Step := .write false (bytesOf (text ++ "\n"))

def failed (text : String) (code : Nat) : Result := ⟨[complain text], code⟩

/-! ## Writing -/

/-- The options at the start of the arguments of echo. -/
def echoOptions (arguments : List String) : List String × List String :=
  let isOption (argument : String) : Bool :=
    match argument.toList with
    | '-' :: letters => !letters.isEmpty && letters.all fun c => c == 'n' || c == 'e' || c == 'E'
    | _ => false
  (arguments.takeWhile isOption, arguments.dropWhile isOption)

/-- Write the arguments on one line. Escapes are read only if that is asked for. -/
def echo (arguments : List String) : Result :=
  let (options, words) := echoOptions arguments
  let letters := options.flatMap fun option => option.toList
  let escapes := (letters.filter fun c => c == 'e' || c == 'E').getLast? == some 'e'
  let text := " ".intercalate words
  let (bytes, early) := if escapes then Format.unescapeAll false text else (bytesOf text, false)
  let ending := if letters.contains 'n' || early then [] else [newline]
  ⟨[.write true (bytes ++ ending)], 0⟩

def printf (name : String) (arguments : List String) : Result :=
  match if arguments.head? == some "--" then arguments.tail else arguments with
  | [] => failed s!"{name}: missing operand" 1
  | format :: values =>
      ⟨[.write true (Format.formatAll format (values.length + 1) values)], 0⟩

/-! ## Files -/

def reasonOf : Files.Error → String
  | .at fault _ => fault.text
  | .linkedDirectory => "Not a directory"
  | .nullCharacter => "Invalid argument"

def catOne (invocation : Invocation) (path : String) : Result :=
  if path == "-" then ⟨[.write true invocation.input], 0⟩
  else
    match invocation.files.read path with
    | .ok content => ⟨[.write true content.toList], 0⟩
    | .error error => failed s!"{invocation.name}: {path}: {reasonOf error}" 1

/-- Do one thing after another. The code tells whether all of them succeeded. -/
def inTurn (results : List Result) : Result :=
  ⟨results.flatMap Result.steps, (results.map Result.code).foldl max 0⟩

def cat (invocation : Invocation) : Result :=
  inTurn ((if invocation.arguments.isEmpty then ["-"] else invocation.arguments).map
    (catOne invocation))

def visibleNames (entries : Files.Entries) (all : Bool) : List String :=
  ((entries.toList.map (·.1)).filter fun name => all || name.toList.head? != some '.').mergeSort
    fun a b => a ≤ b

def ls (invocation : Invocation) : Result :=
  let (options, paths) := invocation.arguments.partition fun argument =>
    argument.toList.head? == some '-' && argument != "-"
  let all := options.any fun option => option.toList.contains 'a' || option.toList.contains 'A'
  let listOne (path : String) : Result :=
    match invocation.files.look path with
    | .ok (_, .directory entries) =>
        say (String.join ((visibleNames entries all).map (· ++ "\n")))
    | .ok (_, .closed) =>
        failed s!"{invocation.name}: cannot open directory '{path}': Permission denied" 2
    | .ok _ => say (path ++ "\n")
    | .error error => failed s!"{invocation.name}: cannot access '{path}': {reasonOf error}" 2
  match paths with
  | [] => listOne "."
  | [path] => listOne path
  | paths =>
      inTurn (paths.map fun path =>
        if invocation.files.isDirectory path then
          inTurn [say s!"{path}:\n", listOne path]
        else listOne path)

/-! ## Time and numbers -/

/-- The seconds that a text with an optional unit gives. -/
def secondsOf? (text : String) : Option Double :=
  let units : List (Char × Nat) := [('s', 1), ('m', 60), ('h', 3600), ('d', 86400)]
  match text.toList.getLast?.bind fun c => units.lookup c with
  | some unit =>
      (Number.read? (String.ofList text.toList.dropLast)).map (· * Double.ofNat unit)
  | none => Number.read? text

def sleep (invocation : Invocation) : Result :=
  match invocation.arguments.mapM secondsOf? with
  | some (first :: rest) => ⟨[.pause (rest.foldl (· + ·) first) true], 0⟩
  | some [] => failed s!"{invocation.name}: missing operand" 1
  | none => failed s!"{invocation.name}: invalid time interval" 1

/-- The numbers from `current` on, in steps, as lines. -/
def countLines (step last : Int) : (fuel : Nat) → (current : Int) → String
  | 0, _ => ""
  | fuel + 1, current =>
      if (0 < step && last < current) || (step < 0 && current < last) || step == 0 then ""
      else s!"{current}\n" ++ countLines step last fuel (current + step)

def seq (invocation : Invocation) : Result :=
  let count (first step last : Int) : Result :=
    say (countLines step last ((last - first).natAbs + 1) first)
  match invocation.arguments.mapM Number.readInteger? with
  | some [last] => count 1 1 last
  | some [first, last] => count first 1 last
  | some [first, step, last] => count first step last
  | _ => failed s!"{invocation.name}: invalid argument" 1

/-! ## Conditions -/

def unaryCondition (files : Files.FileSystem) (operator argument : String) : Option Bool :=
  match operator with
  | "-z" => some (argument == "")
  | "-n" => some (argument != "")
  | "-e" => some (files.hasPath argument)
  | "-f" => some (files.isFile argument)
  | "-d" => some (files.isDirectory argument)
  | "-r" | "-w" => some (files.hasPath argument)
  | _ => none

def binaryCondition (left operator right : String) : Option Bool :=
  let numbers := (Number.readInteger? left).bind fun m =>
    (Number.readInteger? right).map fun n => (m, n)
  match operator with
  | "=" | "==" => some (left == right)
  | "!=" => some (left != right)
  | "-eq" => numbers.map fun (m, n) => m == n
  | "-ne" => numbers.map fun (m, n) => m != n
  | "-lt" => numbers.map fun (m, n) => m < n
  | "-le" => numbers.map fun (m, n) => m ≤ n
  | "-gt" => numbers.map fun (m, n) => n < m
  | "-ge" => numbers.map fun (m, n) => n ≤ m
  | _ => none

def simpleCondition (files : Files.FileSystem) : List String → Option Bool
  | [] => some false
  | [text] => some (text != "")
  | ["!", text] => some (text == "")
  | [operator, argument] => unaryCondition files operator argument
  | ["!", operator, argument] => (unaryCondition files operator argument).map (!·)
  | [left, operator, right] => binaryCondition left operator right
  | ["!", left, operator, right] => (binaryCondition left operator right).map (!·)
  | _ => none

/-- The parts of a list between the occurrences of a text. -/
def splitAt (separator : String) : List String → List (List String)
  | [] => [[]]
  | text :: rest =>
      match splitAt separator rest with
      | [] => [[text]]
      | part :: parts =>
          if text == separator then [] :: part :: parts else (text :: part) :: parts

/-- A simple condition, or several of which all or any have to hold. -/
def condition (files : Files.FileSystem) (arguments : List String) : Option Bool :=
  (simpleCondition files arguments).or do
    let choices ← (splitAt "-o" arguments).mapM fun choice =>
      (splitAt "-a" choice).mapM (simpleCondition files)
    return choices.any fun choice => choice.all id

def test (invocation : Invocation) : Result :=
  let arguments :=
    if invocation.name == "[" then invocation.arguments.dropLast else invocation.arguments
  match condition invocation.files arguments with
  | some true => ⟨[], 0⟩
  | some false => ⟨[], 1⟩
  | none => failed s!"{invocation.name}: unexpected operator" 2

/-! ## All of them -/

def environmentLines (environment : List (String × String)) : String :=
  String.join (environment.map fun (name, value) => s!"{name}={value}\n")

def table : List (String × (Invocation → Result)) := [
  ("echo", fun invocation => echo invocation.arguments),
  ("printf", fun invocation => printf invocation.name invocation.arguments),
  ("cat", cat),
  ("ls", ls),
  ("pwd", fun invocation => say (invocation.files.workingPath ++ "\n")),
  ("true", fun _ => ⟨[], 0⟩),
  ("false", fun _ => ⟨[], 1⟩),
  ("sleep", sleep),
  ("seq", seq),
  ("test", test),
  ("[", test),
  ("env", fun invocation => say (environmentLines invocation.environment)),
  ("printenv", fun invocation =>
    match invocation.arguments with
    | [] => say (environmentLines invocation.environment)
    | names =>
        let values := names.filterMap fun name => invocation.environment.lookup name
        ⟨[.write true (bytesOf (String.join (values.map (· ++ "\n"))))],
          if values.length == names.length then 0 else 1⟩)]

def names : List String := table.map (·.1)

end Runbook.Host.Tools
