import Runbook.Command
import Runbook.Host.Program
import Runbook.Logged
import Runbook.Pattern.Source
import Runbook.Profiles
import Runbook.Variables

/-!
Running commands. A run changes variables and files, records errors, and keeps a
journal of everything that can be seen of it and of when lines begin and commands
start. Whoever watches the output may ask for a stop; the request reaches
everything that is in progress at that moment.
-/

namespace Runbook

/-- Something that happens in a run. A line begins before it is read, and starts its
command once it has been understood. -/
inductive Event
  | began (line : String)
  | started (command : Command)
  | printed (stdout : Bool) (text : String)
  | logged (record : Log.Record)
  deriving DecidableEq, Repr

/-- The state of a run. The journal is held newest first. For everything in
progress there is a flag that tells whether it was asked to stop, the innermost
first. -/
structure State where
  bindings : Variables
  errors : List String
  files : Files.FileSystem
  journal : List Event
  stops : List Bool

namespace State

def initial (bindings : Variables) (files : Files.FileSystem) : State :=
  ⟨bindings, [], files, [], []⟩

def note (event : Event) (state : State) : State :=
  { state with journal := event :: state.journal }

/-- Ask everything in progress to stop. -/
def requestStop (state : State) : State :=
  { state with stops := state.stops.map fun _ => true }

/-- Whether the innermost thing in progress was asked to stop. -/
def isStopped (state : State) : Bool := state.stops.headD false

def events (state : State) : List Event := state.journal.reverse

end State

/-- An output as a watcher sees it, who remembers everything that came before. -/
structure Sighting where
  stdout : Bool
  text : String
  earlier : List Event
  deriving DecidableEq, Repr

/-- To most watchers only the text matters. -/
instance : Coe Sighting String := ⟨Sighting.text⟩

/-- What a run takes from outside and does not change. `stopsAt` tells which output
makes a watcher ask for a stop. -/
structure Surroundings where
  host : List (String × String)
  limit : Variables.Limit
  profiles : Profiles
  characters : Pattern.CharacterNames
  verbose : Bool
  killTimeout : Double
  environment : List (String × String)
  launch : Host.Launcher
  stopsAt : Sighting → Bool

/-- A part of a run. It can end in a fault, and it can run out of fuel. Either way
what it has done remains. -/
def Run (α : Type) : Type := ExceptT Fault (OptionT (StateM State)) α

namespace Run

instance : Monad Run := inferInstanceAs (Monad (ExceptT Fault (OptionT (StateM State))))

instance : MonadStateOf State Run :=
  inferInstanceAs (MonadStateOf State (ExceptT Fault (OptionT (StateM State))))

instance : MonadExceptOf Fault Run :=
  inferInstanceAs (MonadExceptOf Fault (ExceptT Fault (OptionT (StateM State))))

/-- How a part of a run ends, unless it runs out of fuel, and the state afterwards. -/
def outcome {α : Type} (part : Run α) (state : State) : Option (Except Fault α) × State :=
  (ExceptT.run part).run.run state

/-- The end of a part of a run that does not run out of fuel. -/
def run {α : Type} (part : Run α) (state : State) : Option (Except Fault α × State) :=
  let (result, state) := part.outcome state
  result.map fun result => (result, state)

def ofOutcome {α : Type} (outcome : State → Option (Except Fault α) × State) : Run α :=
  ExceptT.mk (OptionT.mk (StateT.mk outcome))

def outOfFuel {α : Type} : Run α := ofOutcome fun state => (none, state)

def attempt {α : Type} (part : Run α) : Run (Except Fault α) :=
  ofOutcome fun state =>
    let (result, state) := part.outcome state
    (result.map .ok, state)

def ofExcept {α : Type} : Except Fault α → Run α
  | .ok value => return value
  | .error fault => throw fault

def record (level : Log.Level) (message : String) : Run Unit :=
  modify (State.note (.logged ⟨level, message⟩))

def ofLogged {α : Type} (computation : Logged α) : Run α := do
  let (result, records) := computation.outcome
  modify fun state => records.foldl (fun state record => state.note (.logged record)) state
  ofExcept result

def addError (message : String) : Run Unit :=
  modify fun state => { state with errors := state.errors ++ [message] }

def setVariable (name : String) (value : Value) : Run Unit :=
  modify fun state => { state with bindings := state.bindings.set name value }

def setFiles (files : Files.FileSystem) : Run Unit :=
  modify fun state => { state with files := files }

def isStopped : Run Bool := return (← get).isStopped

/-- A part of a run that can be asked to stop on its own. With `stopped` it has been
asked before it begins. -/
def inFrame {α : Type} (stopped : Bool) (part : Run α) : Run α := do
  modify fun state => { state with stops := stopped :: state.stops }
  let result ← attempt part
  modify fun state => { state with stops := state.stops.tail }
  ofExcept result

/-- A part of a run that has been asked to stop if what is around it has been. -/
def inInnerFrame {α : Type} (part : Run α) : Run α := do
  inFrame (← isStopped) part

end Run

namespace Surroundings

def print (surroundings : Surroundings) (stdout : Bool) (text : String) : Run Unit :=
  modify fun state =>
    let printed := state.note (.printed stdout text)
    if surroundings.stopsAt ⟨stdout, text, state.journal⟩ then printed.requestStop else printed

/-- Print a text as a result. -/
def say (surroundings : Surroundings) (text : String) : Run Unit :=
  surroundings.print true text

/-- Print a text as a remark. -/
def remark (surroundings : Surroundings) (text : String) : Run Unit :=
  surroundings.print false text

def sayAll (surroundings : Surroundings) : List String → Run Unit
  | [] => return ()
  | text :: rest => do
      surroundings.say text
      surroundings.sayAll rest

def remarkAll (surroundings : Surroundings) : List String → Run Unit
  | [] => return ()
  | text :: rest => do
      surroundings.remark text
      surroundings.remarkAll rest

end Surroundings

end Runbook
