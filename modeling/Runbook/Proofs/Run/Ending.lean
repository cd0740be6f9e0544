import Runbook.Proofs.Run.Following

/-! # Endings

A part of a run that starts in a certain state ends with a result, and then certain things
can be seen of the run. Endings are put together: what the second of two parts ends in
may depend only on what can be seen after the first one.
-/

namespace Runbook

/-- What can be seen after some more outputs. -/
def View.showing (view : View) (outputs : List (Bool × String)) : View :=
  { view with printed := view.printed ++ outputs }

@[simp] theorem View.showing_nil (view : View) : view.showing [] = view := by
  simp [showing]

@[simp] theorem View.showing_showing (view : View) (first second : List (Bool × String)) :
    (view.showing first).showing second = view.showing (first ++ second) := by
  simp [showing]

/-- A part of a run ends with a result, and this is what can be seen then. -/
def EndsIn {α : Type} (part : Run α) (state : State) (result : Except Fault α) (view : View) :
    Prop :=
  ∃ final, part.run state = some (result, final) ∧ final.view = view

section EndsIn

variable {α : Type} {part other : Run α} {state start : State} {result : Except Fault α}
  {view : View}

theorem endsIn_iff : EndsIn part state result view ↔
    ∃ final, part.outcome state = (some result, final) ∧ final.view = view := by
  simp only [EndsIn, Run.run_eq_some_iff]

theorem endsIn_of_outcome {reached : Except Fault α} {final : State}
    (ended : part.outcome state = (some reached, final)) :
    EndsIn part state result view ↔ result = reached ∧ view = final.view := by
  rw [endsIn_iff, ended]
  constructor
  · rintro ⟨_, ⟨⟩, rfl⟩
    exact ⟨rfl, rfl⟩
  · rintro ⟨rfl, rfl⟩
    exact ⟨final, rfl, rfl⟩

theorem not_endsIn_of_outcome {final : State} (unfinished : part.outcome state = (none, final)) :
    ¬EndsIn part state result view := by
  rw [endsIn_iff, unfinished]
  rintro ⟨_, ⟨⟩, _⟩

/-- A part of a run ends in one way. -/
theorem EndsIn.result_unique {last : View} {ended : Except Fault α}
    (first : EndsIn part state result view) (second : EndsIn part state ended last) :
    result = ended := by
  rcases endsIn_iff.mp first with ⟨final, reached, _⟩
  exact ((endsIn_of_outcome reached).mp second).1.symm

theorem endsIn_congr (same : part.outcome state = other.outcome start) :
    EndsIn part state result view ↔ EndsIn other start result view := by
  rw [endsIn_iff, endsIn_iff, same]

theorem Follows.endsIn (follows : Follows part other) (alike : Alike state start)
    (ends : EndsIn part state result view) : EndsIn other start result view := by
  rcases endsIn_iff.mp ends with ⟨final, ended, rfl⟩
  rcases follows alike ended with ⟨after, followed, same, _⟩
  exact endsIn_iff.mpr ⟨after, followed, same.symm⟩

namespace EndsIn

variable {β : Type} {next : α → Run β} {value : α} {last : View} {ended : Except Fault β}

theorem pure (seen : state.view = view) : EndsIn (Pure.pure value) state (.ok value) view :=
  endsIn_iff.mpr ⟨state, rfl, seen⟩

theorem bind (first : EndsIn part state (.ok value) view)
    (rest : ∀ middle, middle.view = view → EndsIn (next value) middle ended last) :
    EndsIn (part >>= next) state ended last := by
  rcases endsIn_iff.mp first with ⟨middle, returned, seen⟩
  rcases endsIn_iff.mp (rest middle seen) with ⟨final, finished, shown⟩
  refine endsIn_iff.mpr ⟨final, ?_, shown⟩
  rw [Run.outcome_bind, returned, Run.proceed, finished]

theorem bind_error {fault : Fault} (failed : EndsIn part state (.error fault) view) :
    EndsIn (part >>= next) state (.error fault) view := by
  rcases endsIn_iff.mp failed with ⟨final, ended, seen⟩
  refine endsIn_iff.mpr ⟨final, ?_, seen⟩
  rw [Run.outcome_bind, ended, Run.proceed]

theorem get {next : State → Run β} (rest : EndsIn (next state) state ended last) :
    EndsIn (MonadState.get >>= next) state ended last :=
  (endsIn_congr (by rw [Run.outcome_bind, Run.outcome_get, Run.proceed])).mpr rest

theorem attempt (ends : EndsIn part state result view) :
    EndsIn (Run.attempt part) state (.ok result) view := by
  rcases endsIn_iff.mp ends with ⟨final, finished, seen⟩
  refine endsIn_iff.mpr ⟨final, ?_, seen⟩
  rw [Run.outcome_attempt, finished, Option.map_some]

theorem inFrame {stopped : Bool}
    (ends : EndsIn part { state with stops := stopped :: state.stops } result view) :
    EndsIn (Run.inFrame stopped part) state result view := by
  rcases endsIn_iff.mp ends with ⟨final, finished, seen⟩
  refine endsIn_iff.mpr ⟨{ final with stops := final.stops.tail }, ?_, seen⟩
  rw [Run.outcome_inFrame, finished, Run.leaveFrame]

theorem note {event : Event} (unseen : event.output? = none) (state : State) :
    EndsIn (modify (State.note event)) state (.ok ()) state.view :=
  endsIn_iff.mpr ⟨_, rfl, State.view_note_of_unseen unseen state⟩

theorem ofLogged {computation : Logged α} (ends : computation.outcome.1 = result)
    (state : State) : EndsIn (Run.ofLogged computation) state result state.view := by
  refine endsIn_iff.mpr ⟨_, ?_, State.view_foldl_logged computation.outcome.2 state⟩
  rw [Run.outcome_ofLogged, ends]

theorem setVariable (name : String) (value : Value) (state : State) :
    EndsIn (Run.setVariable name value) state (.ok ())
      { state.view with bindings := state.bindings.set name value } :=
  endsIn_iff.mpr ⟨_, rfl, rfl⟩

/-- A text can be seen once it is printed, whether or not a watcher asks for a stop. -/
theorem print (surroundings : Surroundings) (stdout : Bool) (text : String) (state : State) :
    EndsIn (surroundings.print stdout text) state (.ok ())
      (state.view.showing [(stdout, text)]) := by
  refine endsIn_iff.mpr ⟨_, rfl, ?_⟩
  change State.view (if _ then _ else _) = _
  split
  · exact State.view_note _ state
  · exact State.view_note _ state

end EndsIn

end EndsIn

end Runbook
