/-!
The log of a run. A record has a level; what a console or a file shows are the
records from some level on, each with the time and its level in front.
-/

namespace Runbook.Log

inductive Level
  | debug
  | info
  | warning
  | error
  | critical
  deriving DecidableEq, Repr

namespace Level

def rank : Level → Nat
  | .debug => 10
  | .info => 20
  | .warning => 30
  | .error => 40
  | .critical => 50

def name : Level → String
  | .debug => "DEBUG"
  | .info => "INFO"
  | .warning => "WARNING"
  | .error => "ERROR"
  | .critical => "CRITICAL"

def all : List Level := [.debug, .info, .warning, .error, .critical]

def ofName? (name : String) : Option Level := all.find? fun level => level.name == name

/-- Whether records of this level are shown where `least` is the lowest level. -/
def reaches (level least : Level) : Bool := least.rank ≤ level.rank

end Level

structure Record where
  level : Level
  message : String
  deriving DecidableEq, Repr

/-- A record as one line, which may hold further lines in its message. -/
def Record.line (record : Record) (time : String) : String :=
  s!"{time} - {record.level.name} - {record.message}\n"

/-! ## Outlets -/

/-- Where records go, and from which level on. -/
inductive Outlet
  | file (path : String) (least : Level)
  | console (least : Level)
  deriving DecidableEq, Repr

/-- The outlets of a log and the level from which on records are made at all. -/
structure Setup where
  least : Level
  outlets : List Outlet
  deriving DecidableEq, Repr

namespace Setup

def records (setup : Setup) (record : Record) : Bool := record.level.reaches setup.least

/-- What a record shows on the console. Without any outlet, warnings and errors
are shown as bare messages. -/
def consoleText (setup : Setup) (time : String) (record : Record) : String :=
  if !setup.records record then ""
  else if setup.outlets.isEmpty then
    if record.level.reaches .warning then record.message ++ "\n" else ""
  else
    String.join (setup.outlets.map fun
      | .console least => if record.level.reaches least then record.line time else ""
      | .file _ _ => "")

def fileText (setup : Setup) (time : String) (path : String) (record : Record) : String :=
  if !setup.records record then ""
  else
    String.join (setup.outlets.map fun
      | .file other least =>
          if other == path && record.level.reaches least then record.line time else ""
      | .console _ => "")

end Setup

end Runbook.Log
