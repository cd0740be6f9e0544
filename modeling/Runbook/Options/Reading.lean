import Runbook.Number.Reading
import Runbook.Options.Grammar
import Runbook.Text.Quoted
import Runbook.Text.Substitute

/-!
Reading arguments. All arguments before a double dash are first told apart:
those that give a flag and those that do not. Then flags take their values from
the arguments behind them.
-/

namespace Runbook.Options

inductive Fault
  | ambiguous (given : String) (candidates : List String)
  | missingValue (parameter : String)
  | unusedValue (parameter value : String)
  | notANumber (parameter value : String)
  | missing (parameters : List String)
  | unrecognized (arguments : List String)
  deriving DecidableEq, Repr

def Fault.message : Fault → String
  | .ambiguous given candidates =>
      s!"ambiguous option: {given} could match " ++ ", ".intercalate candidates
  | .missingValue parameter => s!"argument {parameter}: expected one argument"
  | .unusedValue parameter value =>
      s!"argument {parameter}: ignored explicit argument {Text.quoted value}"
  | .notANumber parameter value =>
      s!"argument {parameter}: invalid float value: {Text.quoted value}"
  | .missing parameters =>
      "the following arguments are required: " ++ ", ".intercalate parameters
  | .unrecognized arguments => "unrecognized arguments: " ++ " ".intercalate arguments

/-- Why reading ends early: arguments are wrong, or help was asked for. -/
inductive Stop
  | fault (fault : Fault)
  | help
  deriving DecidableEq, Repr

/-! ## Telling arguments apart -/

/-- A flag as it was given. `value` is the text attached to it, and `assigned`
tells whether an equals sign stands between them. -/
structure Given where
  flag : String
  parameter : Parameter
  value : Option (List Char)
  assigned : Bool

inductive Role
  | plain
  | separator
  | flag (given : Given)
  | unknownFlag

structure Argument where
  text : String
  role : Role

/-- Whether a text reads as a negative number. One line end may follow it. -/
def isNegativeNumber (text : List Char) : Bool :=
  match text with
  | '-' :: body =>
      let body := if body.getLast? == some '\n' then body.dropLast else body
      let isDigits (digits : List Char) : Bool :=
        !digits.isEmpty && digits.all Text.isDecimalDigit
      let fraction := body.dropWhile Text.isDecimalDigit
      isDigits body ||
        match fraction with
        | '.' :: digits => isDigits digits
        | _ => false
  | _ => false

/-- The text before the first equals sign and the text behind it. -/
def splitAssignment (text : List Char) : List Char × Option (List Char) :=
  match Text.splitAtFirst ['='] text with
  | some (flag, value) => (flag, some value)
  | none => (text, none)

/-- The flags that a shortened flag, or a short one with its value attached, can
stand for. -/
def candidates (grammar : Grammar) (text : List Char) : List Given :=
  match text with
  | '-' :: '-' :: _ =>
      if grammar.abbreviations then
        let (start, value) := splitAssignment text
        grammar.flags.filterMap fun (flag, parameter) =>
          if start.isPrefixOf flag.toList then some ⟨flag, parameter, value, value.isSome⟩ else none
      else []
  | _ =>
      grammar.flags.filterMap fun (flag, parameter) =>
        if flag.toList == text.take 2 then some ⟨flag, parameter, some (text.drop 2), false⟩
        else if text.isPrefixOf flag.toList then some ⟨flag, parameter, none, false⟩
        else none

/-- What an argument before any double dash is. Texts with a blank in them and
negative numbers are no flags, even if they start with a dash. -/
def roleOf (grammar : Grammar) (argument : String) : Except Stop Role :=
  let text := argument.toList
  if text.head? != some '-' then .ok .plain
  else
    match grammar.find? argument with
    | some parameter => .ok (.flag ⟨argument, parameter, none, false⟩)
    | none =>
        if text.length == 1 then .ok .plain
        else
          let (start, value) := splitAssignment text
          let assigned := if value.isSome then grammar.find? (String.ofList start) else none
          match assigned with
          | some parameter => .ok (.flag ⟨String.ofList start, parameter, value, true⟩)
          | none =>
              match candidates grammar text with
              | [given] => .ok (.flag given)
              | [] =>
                  if isNegativeNumber text || text.contains ' ' then .ok .plain
                  else .ok .unknownFlag
              | several => .error (.fault (.ambiguous argument (several.map (·.flag))))

/-- Tell the arguments apart. Behind a double dash there are no flags. -/
def classify (grammar : Grammar) : List String → Except Stop (List Argument)
  | [] => .ok []
  | argument :: rest =>
      if argument == "--" then
        .ok (⟨argument, .separator⟩ :: rest.map fun text => ⟨text, .plain⟩)
      else do
        let role ← roleOf grammar argument
        return ⟨argument, role⟩ :: (← classify grammar rest)

/-! ## Taking values -/

/-- The parameters set so far, in the order in which they were given, and the
arguments that belong to none. -/
structure Progress where
  settings : List (String × Setting)
  seen : List Parameter
  extras : List String

def Progress.empty : Progress := ⟨[], [], []⟩

def Progress.extra (progress : Progress) (text : String) : Progress :=
  { progress with extras := progress.extras ++ [text] }

def Progress.set (progress : Progress) (parameter : Parameter) (setting : Setting) : Progress :=
  { progress with
    settings := (parameter.name, setting) :: progress.settings
    seen := parameter :: progress.seen }

def assign (progress : Progress) (parameter : Parameter) (text : String) :
    Except Stop Progress :=
  match parameter.kind with
  | .number =>
      match Number.read? text with
      | some value => .ok (progress.set parameter (.number value))
      | none => .error (.fault (.notANumber parameter.title text))
  | _ => .ok (progress.set parameter (.text text))

def turnOn (progress : Progress) (parameter : Parameter) : Except Stop Progress :=
  if parameter.kind == .help then .error .help
  else .ok (progress.set parameter (.switch true))

def assignNext (progress : Progress) (parameter : Parameter) (rest : List Argument) :
    Except Stop (Progress × List Argument) :=
  if parameter.takesValue then
    match rest with
    | ⟨text, .plain⟩ :: rest => do return (← assign progress parameter text, rest)
    | _ => .error (.fault (.missingValue parameter.title))
  else do return (← turnOn progress parameter, rest)

/-- What a run of short flags in one argument comes to: switches, and then
nothing more, a flag that takes the next argument, or one with its text. Letters
that are no flag are left over. -/
inductive Cluster
  | done
  | next (parameter : Parameter)
  | value (parameter : Parameter) (text : String)
  | leftover (text : String)

/-- A switch in front of the rest of a cluster. -/
def before (parameter : Parameter) (rest : List Parameter × Cluster) :
    List Parameter × Cluster :=
  (parameter :: rest.1, rest.2)

/-- Take the text attached to a flag apart. -/
def cluster (grammar : Grammar) : (fuel : Nat) → (flag : String) → Parameter →
    (attached : List Char) → (assigned : Bool) → Except Stop (List Parameter × Cluster)
  | 0, _, _, _, _ => .ok ([], .done)
  | fuel + 1, flag, parameter, attached, assigned =>
      if parameter.takesValue then .ok ([], .value parameter (String.ofList attached))
      else
        match attached with
        | c :: rest =>
            if flag.toList[1]? == some '-' || assigned || c == '-' then
              .error (.fault (.unusedValue parameter.title (String.ofList attached)))
            else
              match grammar.find? (String.ofList ['-', c]) with
              | none => .ok ([parameter], .leftover (String.ofList ('-' :: attached)))
              | some other =>
                  match rest with
                  | [] => .ok ([parameter], .next other)
                  | '=' :: value => before parameter <$> cluster grammar fuel (String.ofList ['-', c]) other value true
                  | value => before parameter <$> cluster grammar fuel (String.ofList ['-', c]) other value false
        | [] => .error (.fault (.unusedValue parameter.title ""))

def takeFlag (grammar : Grammar) (progress : Progress) (given : Given) (rest : List Argument) :
    Except Stop (Progress × List Argument) :=
  match given.value with
  | none => assignNext progress given.parameter rest
  | some attached => do
      let (switches, ending) ←
        cluster grammar (attached.length + 1) given.flag given.parameter attached given.assigned
      match ending with
      | .done => return (← switches.foldlM turnOn progress, rest)
      | .leftover text => return (← switches.foldlM turnOn (progress.extra text), rest)
      | .value parameter text => return (← assign (← switches.foldlM turnOn progress) parameter text, rest)
      | .next parameter =>
          if parameter.takesValue then
            match rest with
            | ⟨text, .plain⟩ :: rest =>
                return (← assign (← switches.foldlM turnOn progress) parameter text, rest)
            | _ => throw (.fault (.missingValue parameter.title))
          else return (← turnOn (← switches.foldlM turnOn progress) parameter, rest)

/-- Go through the arguments. The fuel is their number. -/
def consume (grammar : Grammar) : (fuel : Nat) → Progress → List Argument →
    Except Stop Progress
  | 0, progress, _ => .ok progress
  | _, progress, [] => .ok progress
  | fuel + 1, progress, ⟨text, role⟩ :: rest =>
      match role with
      | .plain | .separator =>
          match grammar.remainder with
          | some (name, _) =>
              let texts := text :: rest.map (·.text)
              .ok { progress with settings := (name, .texts texts) :: progress.settings }
          | none => consume grammar fuel (progress.extra text) rest
      | .unknownFlag => consume grammar fuel (progress.extra text) rest
      | .flag given => do
          let (progress, rest) ← takeFlag grammar progress given rest
          consume grammar fuel progress rest

/-! ## Results -/

structure Settings where
  entries : List (String × Setting)
  deriving DecidableEq, Repr

namespace Settings

def get (settings : Settings) (name : String) : Setting :=
  (settings.entries.lookup name).getD .absent

def isOn (settings : Settings) (name : String) : Bool := settings.get name == .switch true

def text? (settings : Settings) (name : String) : Option String :=
  match settings.get name with
  | .text value => some value
  | _ => none

def text (settings : Settings) (name : String) : String := (settings.text? name).getD ""

def number (settings : Settings) (name : String) : Double :=
  match settings.get name with
  | .number value => value
  | _ => .notANumber

def texts (settings : Settings) (name : String) : List String :=
  match settings.get name with
  | .texts values => values
  | _ => []

end Settings

/-- The settings of all parameters, given or not. -/
def Progress.result (progress : Progress) (grammar : Grammar) : Settings :=
  let declared := grammar.parameters.filterMap fun parameter =>
    if parameter.kind == .help then none
    else
      some (parameter.name, (progress.settings.lookup parameter.name).getD parameter.default)
  let remainder := grammar.remainder.toList.map fun (name, _) =>
    (name, (progress.settings.lookup name).getD (.texts []))
  ⟨declared ++ remainder⟩

/-- Read all arguments. A parameter that is required and was not given is an error,
and so is an argument that belongs to no parameter. -/
def read (grammar : Grammar) (arguments : List String) : Except Stop Settings := do
  let classified ← classify grammar arguments
  let progress ← consume grammar classified.length .empty classified
  let missing := grammar.parameters.filter fun parameter =>
    parameter.required && !progress.seen.contains parameter
  if !missing.isEmpty then throw (.fault (.missing (missing.map (·.title))))
  else if !progress.extras.isEmpty then throw (.fault (.unrecognized progress.extras))
  else return progress.result grammar

end Runbook.Options
