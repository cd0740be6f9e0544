import Runbook.Proofs.Run.Outcome

/-! # Runs that follow each other

What a run goes on to do depends on what can be seen of its state and on whether it was
asked to stop, but not on the records of the log, on when lines began, or on how deep
the run is nested. Here two parts of a run are compared that start in states which look
alike and have not been asked to stop. One follows the other if it ends in the same way
whenever the other ends, in a state that looks alike again.
-/

namespace Runbook

variable {α β : Type}

/-! ## What can be seen -/

def Event.output? : Event → Option (Bool × String)
  | .printed stdout text => some (stdout, text)
  | .began _ | .started _ | .logged _ => none

/-- What can be seen of the state of a run: the outputs in order, the errors, the
variables and the files. -/
structure View where
  printed : List (Bool × String)
  errors : List String
  bindings : Variables
  files : Files.FileSystem

namespace State

def view (state : State) : View :=
  ⟨state.events.filterMap Event.output?, state.errors, state.bindings, state.files⟩

theorem view_note (event : Event) (state : State) :
    (state.note event).view =
      { state.view with printed := state.view.printed ++ event.output?.toList } := by
  rw [view, events, note, List.reverse_cons, List.filterMap_append]
  cases shown : event.output? <;> simp [shown, view, events]

theorem view_note_of_unseen {event : Event} (unseen : event.output? = none) (state : State) :
    (state.note event).view = state.view := by
  rw [view_note, unseen, Option.toList_none, List.append_nil]

/-- Records of the log are not seen. -/
theorem view_foldl_logged (records : List Log.Record) (state : State) :
    (records.foldl (fun state record => state.note (.logged record)) state).view = state.view := by
  refine List.foldlRecOn (motive := fun later : State => later.view = state.view) _ _ rfl ?_
  exact fun later kept record _ => (view_note_of_unseen rfl later).trans kept

theorem stops_foldl_logged (records : List Log.Record) (state : State) :
    (records.foldl (fun state record => state.note (.logged record)) state).stops = state.stops :=
  List.foldlRecOn (motive := fun later : State => later.stops = state.stops) _ _ rfl
    fun _ kept _ _ => kept

end State

/-- Nobody who watches the output ever asks for a stop. -/
def Surroundings.Unwatched (surroundings : Surroundings) : Prop :=
  ∀ sighting, surroundings.stopsAt sighting = false

/-- Two states that look alike, neither of which was asked to stop. -/
structure Alike (left right : State) : Prop where
  view : left.view = right.view
  goesOn : left.isStopped = false
  goesOnToo : right.isStopped = false

namespace Alike

variable {left right : State}

theorem bindings (alike : Alike left right) : left.bindings = right.bindings :=
  congrArg View.bindings alike.view

theorem files (alike : Alike left right) : left.files = right.files :=
  congrArg View.files alike.view

theorem errors (alike : Alike left right) : left.errors = right.errors :=
  congrArg View.errors alike.view

end Alike

/-! ## Following -/

/-- If `leader` ends, `follower` ends in the same way in a state that looks alike, and
neither of them has touched its stop flags. -/
def Follows (leader follower : Run α) : Prop :=
  ∀ ⦃left right⦄, Alike left right → ∀ ⦃result final⦄, leader.outcome left = (some result, final) →
    ∃ after, follower.outcome right = (some result, after) ∧
      final.view = after.view ∧ final.stops = left.stops ∧ after.stops = right.stops

theorem State.isStopped_congr {state other : State} (stops : other.stops = state.stops) :
    other.isStopped = state.isStopped := by
  rw [State.isStopped, stops, State.isStopped]

namespace Follows

variable {leader follower : Run α} {next next' : α → Run β}

theorem pure (value : α) : Follows (Pure.pure value) (Pure.pure value) := by
  rintro left right alike result final ⟨⟩
  exact ⟨right, rfl, alike.view, rfl, rfl⟩

theorem throw (fault : Fault) :
    Follows (MonadExcept.throw fault : Run α) (MonadExcept.throw fault) := by
  rintro left right alike result final ⟨⟩
  exact ⟨right, rfl, alike.view, rfl, rfl⟩

/-- Whatever follows a part that does not end. -/
theorem outOfFuel : Follows Run.outOfFuel follower := by
  rintro left right _ result final ⟨⟩

/-- The parts that come second have to follow only for what the first ones return. -/
theorem bind_of_returns {mid : α → Prop} (follows : Follows leader follower)
    (returns : Returns mid leader)
    (rest : ∀ value, mid value → Follows (next value) (next' value)) :
    Follows (leader >>= next) (follower >>= next') := by
  intro left right alike result final ended
  rcases Run.outcome_bind_ended ended with ⟨value, middle, first, second⟩ | ⟨fault, first, rfl⟩
  · rcases follows alike first with ⟨between, followed, view, stops, stopsToo⟩
    have still : Alike middle between := ⟨view,
      (State.isStopped_congr stops).trans alike.goesOn,
      (State.isStopped_congr stopsToo).trans alike.goesOnToo⟩
    rcases rest value (returns first) still second with ⟨after, further, last, kept, keptToo⟩
    refine ⟨after, ?_, last, kept.trans stops, keptToo.trans stopsToo⟩
    rw [Run.outcome_bind, followed, Run.proceed, further]
  · rcases follows alike first with ⟨after, followed, kept⟩
    refine ⟨after, ?_, kept⟩
    rw [Run.outcome_bind, followed, Run.proceed]

theorem bind (follows : Follows leader follower)
    (rest : ∀ value, Follows (next value) (next' value)) :
    Follows (leader >>= next) (follower >>= next') :=
  bind_of_returns follows .anything fun value _ => rest value

/-- Read the state. States that look alike may differ in what nobody sees. -/
theorem get {next next' : State → Run β}
    (rest : ∀ left right, Alike left right → Follows (next left) (next' right)) :
    Follows (MonadState.get >>= next) (MonadState.get >>= next') :=
  fun _ _ alike _ _ ended => rest _ _ alike alike ended

theorem ofModify {change : State → State}
    (view : ∀ left right, left.view = right.view → (change left).view = (change right).view)
    (stops : ∀ state, (change state).stops = state.stops) :
    Follows (modify change : Run Unit) (modify change) := by
  rintro left right alike result final ⟨⟩
  exact ⟨change right, rfl, view left right alike.view, stops left, stops right⟩

theorem isStopped : Follows Run.isStopped Run.isStopped :=
  get fun left right alike => by
    rw [alike.goesOn, alike.goesOnToo]
    exact pure false

theorem attempt (follows : Follows leader follower) :
    Follows (Run.attempt leader) (Run.attempt follower) := by
  intro left right alike result final ended
  rw [Run.outcome_attempt, Prod.mk.injEq, Option.map_eq_some_iff] at ended
  rcases ended with ⟨⟨result, first, rfl⟩, rfl⟩
  rcases follows alike (Prod.ext first rfl) with ⟨after, followed, kept⟩
  refine ⟨after, ?_, kept⟩
  rw [Run.outcome_attempt, followed, Option.map_some]

/-! ### Frames -/

theorem frameLeader (follows : Follows leader follower) :
    Follows (Run.inFrame false leader) follower := by
  intro left right alike result final ended
  rw [Run.outcome_inFrame] at ended
  have inside : Alike { left with stops := false :: left.stops } right :=
    ⟨alike.view, rfl, alike.goesOnToo⟩
  generalize framed : leader.outcome _ = outcome at ended
  rcases outcome with ⟨_ | result, inner⟩
  · cases ended
  · cases ended
    rcases follows inside framed with ⟨after, followed, view, stops, stopsToo⟩
    exact ⟨after, followed, view, congrArg List.tail stops, stopsToo⟩

theorem frameFollower (follows : Follows leader follower) :
    Follows leader (Run.inFrame false follower) := by
  intro left right alike result final ended
  have inside : Alike left { right with stops := false :: right.stops } :=
    ⟨alike.view, alike.goesOn, rfl⟩
  rcases follows inside ended with ⟨inner, followed, view, stops, stopsToo⟩
  refine ⟨{ inner with stops := inner.stops.tail }, ?_, view, stops, congrArg List.tail stopsToo⟩
  rw [Run.outcome_inFrame, followed, Run.leaveFrame]

theorem inFrame (follows : Follows leader follower) :
    Follows (Run.inFrame false leader) (Run.inFrame false follower) :=
  follows.frameLeader.frameFollower

theorem innerFrameLeader (follows : Follows leader follower) :
    Follows (Run.inInnerFrame leader) follower := by
  intro left right alike result final ended
  rw [Run.outcome_inInnerFrame, alike.goesOn] at ended
  exact follows.frameLeader alike ended

theorem innerFrameFollower (follows : Follows leader follower) :
    Follows leader (Run.inInnerFrame follower) := by
  intro left right alike result final ended
  rw [Run.outcome_inInnerFrame, alike.goesOnToo]
  exact follows.frameFollower alike ended

theorem inInnerFrame (follows : Follows leader follower) :
    Follows (Run.inInnerFrame leader) (Run.inInnerFrame follower) :=
  follows.innerFrameLeader.innerFrameFollower

/-! ### Changes -/

theorem silent {change : State → State} (view : ∀ state, (change state).view = state.view)
    (stops : ∀ state, (change state).stops = state.stops) :
    Follows (modify change : Run Unit) (modify change) :=
  ofModify (fun left right same => by rw [view left, view right, same]) stops

theorem note {event : Event} (unseen : event.output? = none) :
    Follows (modify (State.note event)) (modify (State.note event)) :=
  silent (State.view_note_of_unseen unseen) fun _ => rfl

theorem addError (message : String) : Follows (Run.addError message) (Run.addError message) :=
  ofModify (fun left right same => by
    change { left.view with errors := left.view.errors ++ [message] } = _
    rw [same]
    rfl) fun _ => rfl

theorem rebind (change : Variables → Variables) :
    Follows (modify fun state => { state with bindings := change state.bindings } : Run Unit)
      (modify fun state => { state with bindings := change state.bindings }) :=
  ofModify (fun left right same => by
    change { left.view with bindings := change left.view.bindings } = _
    rw [same]
    rfl) fun _ => rfl

theorem setFiles (files : Files.FileSystem) : Follows (Run.setFiles files) (Run.setFiles files) :=
  ofModify (fun left right same => by
    change { left.view with files := files } = _
    rw [same]
    rfl) fun _ => rfl

theorem print {surroundings : Surroundings} (unwatched : surroundings.Unwatched)
    (stdout : Bool) (text : String) :
    Follows (surroundings.print stdout text) (surroundings.print stdout text) := by
  unfold Surroundings.print
  simp only [unwatched _, Bool.false_eq_true, if_false]
  refine ofModify (fun left right same => ?_) fun _ => rfl
  rw [State.view_note, State.view_note, same]

end Follows

end Runbook
