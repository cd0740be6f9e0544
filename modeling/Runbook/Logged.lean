import Runbook.Fault
import Runbook.Log

/-!
Computations that log. What was logged before a fault is kept.
-/

namespace Runbook

/-- A computation that can fail and that logs. Records are held newest first. -/
abbrev Logged := ExceptT Fault (StateM (List Log.Record))

namespace Logged

def record (level : Log.Level) (message : String) : Logged Unit :=
  modify fun records => ⟨level, message⟩ :: records

/-- The result of a computation, and what it logged in order. -/
def outcome {α : Type} (computation : Logged α) : Except Fault α × List Log.Record :=
  let (result, records) := computation.run.run []
  (result, records.reverse)

def ofExcept {α : Type} : Except Fault α → Logged α
  | .ok value => return value
  | .error fault => throw fault

end Logged

end Runbook
