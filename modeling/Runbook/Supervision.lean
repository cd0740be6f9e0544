import Runbook.Run

/-!
Running programs of the host. Every line that a program writes is handled in turn;
a line that cannot be handled does not keep the others from being handled. A
program that is asked to stop is terminated as soon as it waits, and killed if it
does not heed that in time.
-/

namespace Runbook.Supervision

open Host (Launch Action Activity)

/-- What is done with a line of a stream, given what is kept from line to line. A
line that cannot be handled comes back with a fault. -/
abbrev Handler (σ : Type) := σ → (stdout : Bool) → (text : String) → Run (σ × Option Fault)

/-- How a program ended, and what went wrong with the lines that it wrote. -/
structure Outcome where
  code : Int
  failures : List Fault

/-- Note that a line could not be handled. Only the first failure is logged. -/
def noteFailure (program : String) (failures : List Fault) :
    Option Fault → Run (List Fault)
  | none => return failures
  | some fault => do
      if failures.isEmpty then
        Run.record .error s!"Failed to handle output of {program}: {fault.message}"
      return failures ++ [fault]

/-- What is wrong with waiting for a program that was never started. -/
def notStarted : Fault := .state "Process has not been started"

/-- The end of a program that was ended by a signal. -/
def Outcome.signalled (signal : Nat) (failures : List Fault) : Outcome :=
  ⟨-signal, failures⟩

/-- Follow what a program does. A program that does not heed termination is killed
when it waits longer than `patience`. -/
def follow {σ : Type} (program : String) (handle : Handler σ) (activity : Activity) :
    (kept : σ) → (patience : Double) → (failures : List Fault) → List Action → Run Outcome
  | _, _, failures, [] => return ⟨activity.ending.code, failures⟩
  | kept, patience, failures, .line stdout text :: rest => do
      let (kept, failure) ← handle kept stdout text
      let failures ← noteFailure program failures failure
      follow program handle activity kept patience failures rest
  | kept, patience, failures, .pause seconds heeds :: rest => do
      if !(← Run.isStopped) then follow program handle activity kept patience failures rest
      else
        Run.record .info s!"Terminating process {activity.identity}"
        if heeds then return .signalled Host.terminationSignal failures
        else if patience.lt seconds then
          Run.record .warning
            s!"Process {activity.identity} did not terminate, killing it"
          return .signalled Host.killSignal failures
        else follow program handle activity kept (patience - seconds) failures rest

/-- Start a program and follow it to its end. A program that has been asked to stop
before it starts is terminated before it does anything. -/
def run {σ : Type} (surroundings : Surroundings) (launch : Launch) (handle : Handler σ)
    (kept : σ) : Run Outcome := do
  Run.record .debug s!"Launching: {Text.quotedList launch.arguments}"
  let activity ← Run.ofExcept (surroundings.launch (← get).files launch)
  let outcome ← (do
    if ← Run.isStopped then
      Run.record .info s!"Terminating process {activity.identity}"
      return .signalled Host.terminationSignal []
    else
      Run.setFiles activity.files
      follow launch.program handle activity kept surroundings.killTimeout [] activity.actions)
  Run.record .debug s!"Process exited with code {outcome.code}: {launch.program}"
  return outcome

end Runbook.Supervision
