import Runbook.Proofs.Run.Calm
import Runbook.Proofs.Run.Following

/-! # Elementary parts of runs

A command that runs no further lines is put together from a few kinds of steps. None of
them reads more of the state than the variables, the files and the stop flag, and none
records an error. What holds of all the steps and is kept when they are put together
holds of each of these commands.
-/

namespace Runbook

variable {α β : Type}

/-- A part of a run that is put together from steps. If it has a value, `post` holds of
it. -/
inductive Elementary (surroundings : Surroundings) : {α : Type} → (α → Prop) → Run α → Prop
  | pure {α : Type} {post : α → Prop} {value : α} (holds : post value) :
      Elementary surroundings post (Pure.pure value)
  | throw {α : Type} {post : α → Prop} (fault : Fault) :
      Elementary surroundings post (MonadExcept.throw fault)
  | bind {α β : Type} {mid : α → Prop} {post : β → Prop} {part : Run α} {next : α → Run β}
      (elementary : Elementary surroundings mid part)
      (rest : ∀ value, mid value → Elementary surroundings post (next value)) :
      Elementary surroundings post (part >>= next)
  | attempt {α : Type} {post : α → Prop} {part : Run α}
      (elementary : Elementary surroundings post part) :
      Elementary surroundings (fun result => ∀ value, result = .ok value → post value)
        (Run.attempt part)
  | get {β : Type} {post : β → Prop} {next : State → Run β}
      (reads : ∀ state, next state = next (.initial state.bindings state.files))
      (rest : ∀ state, Elementary surroundings post (next state)) :
      Elementary surroundings post (MonadState.get >>= next)
  | isStopped : Elementary surroundings (fun _ => True) Run.isStopped
  | print (stdout : Bool) (text : String) :
      Elementary surroundings (fun _ => True) (surroundings.print stdout text)
  | log (records : List Log.Record) : Elementary surroundings (fun _ => True)
      (modify fun state => records.foldl (fun state record => state.note (.logged record)) state)
  | rebind (change : Variables → Variables) : Elementary surroundings (fun _ => True)
      (modify fun state => { state with bindings := change state.bindings })
  | setFiles (files : Files.FileSystem) :
      Elementary surroundings (fun _ => True) (Run.setFiles files)

namespace Elementary

variable {surroundings : Surroundings} {post : α → Prop} {part : Run α}

theorem returns (elementary : Elementary surroundings post part) : Returns post part := by
  induction elementary with
  | pure holds => exact .pure holds
  | throw fault => exact .throw fault
  | bind _ _ first rest => exact first.bind rest
  | attempt _ induction => exact induction.attempt
  | get _ _ rest => exact .after rest
  | isStopped | print | log | rebind | setFiles => exact .anything

theorem calm (elementary : Elementary surroundings post part) :
    Calm surroundings.stopsAt post part := by
  induction elementary with
  | pure holds => exact .pure holds
  | throw fault => exact .throw fault
  | bind _ _ first rest => exact first.bind rest
  | attempt _ induction => exact induction.attempt
  | get _ _ rest => exact Calm.get.bind fun state _ => rest state
  | isStopped => exact .isStopped
  | print stdout text => exact .print surroundings stdout text
  | log records => exact .noteRecords records
  | rebind change => exact .ofModify (fun _ => rfl) (fun _ => rfl) fun _ => rfl
  | setFiles files => exact .setFiles files

/-- From states that look alike, an elementary part does the same. -/
theorem follows (elementary : Elementary surroundings post part)
    (unwatched : surroundings.Unwatched) : Follows part part := by
  induction elementary with
  | pure => exact .pure _
  | throw fault => exact .throw fault
  | bind elementary _ first rest => exact first.bind_of_returns elementary.returns rest
  | attempt _ induction => exact induction.attempt
  | get reads _ rest =>
      refine .get fun left right alike => ?_
      rw [reads left, alike.bindings, alike.files, ← reads right]
      exact rest right
  | isStopped => exact .isStopped
  | print stdout text => exact .print unwatched stdout text
  | log records => exact .silent (State.view_foldl_logged _) (State.stops_foldl_logged _)
  | rebind change => exact .rebind change
  | setFiles files => exact .setFiles files

/-! ## Further steps -/

theorem record (level : Log.Level) (message : String) :
    Elementary surroundings (fun _ => True) (Run.record level message) :=
  log [⟨level, message⟩]

theorem ofExcept (result : Except Fault α) :
    Elementary surroundings (fun _ => True) (Run.ofExcept result) := by
  cases result with
  | error fault => exact .throw fault
  | ok value => exact .pure trivial

theorem ofLogged (computation : Logged α) :
    Elementary surroundings (fun _ => True) (Run.ofLogged computation) :=
  (log _).bind fun _ _ => ofExcept _

theorem setVariable (name : String) (value : Value) :
    Elementary surroundings (fun _ => True) (Run.setVariable name value) :=
  rebind (·.set name value)

theorem say (text : String) : Elementary surroundings (fun _ => True) (surroundings.say text) :=
  print true text

theorem remark (text : String) :
    Elementary surroundings (fun _ => True) (surroundings.remark text) :=
  print false text

theorem sayAll (texts : List String) :
    Elementary surroundings (fun _ => True) (surroundings.sayAll texts) := by
  induction texts with
  | nil => exact .pure trivial
  | cons text rest induction =>
      rw [Surroundings.sayAll]
      exact (say text).bind fun _ _ => induction

theorem remarkAll (texts : List String) :
    Elementary surroundings (fun _ => True) (surroundings.remarkAll texts) := by
  induction texts with
  | nil => exact .pure trivial
  | cons text rest induction =>
      rw [Surroundings.remarkAll]
      exact (remark text).bind fun _ _ => induction

end Elementary

end Runbook
