import Runbook.Proofs.Run.Elementary

/-! # Runs in lockstep

Two parts of a run are in lockstep if they do the same things in the same order, except
that the second one leaves out some outputs which can be spared. What a watcher would
make of these outputs must not matter. Then both parts end in the same way, or both run
out of fuel.
-/

namespace Runbook

variable {α β : Type}

/-! ## Outputs that are left out -/

/-- The fewer items are all the items, without some of those that can be spared. -/
structure Thins (spare : α → Bool) (all fewer : List α) : Prop where
  sublist : fewer.Sublist all
  kept : fewer.filter (fun item => !spare item) = all.filter (fun item => !spare item)

namespace Thins

variable {spare : α → Bool} {all fewer more others : List α}

theorem refl (spare : α → Bool) (items : List α) : Thins spare items items :=
  ⟨.refl items, rfl⟩

theorem append (first : Thins spare all fewer) (second : Thins spare more others) :
    Thins spare (all ++ more) (fewer ++ others) where
  sublist := first.sublist.append second.sublist
  kept := by rw [List.filter_append, List.filter_append, first.kept, second.kept]

/-- An item that can be spared need not be there. -/
theorem leaveOut {item : α} (spared : spare item = true) : Thins spare [item] [] where
  sublist := List.nil_sublist [item]
  kept := by simp [spared]

theorem eq_of_unspared (unspared : ∀ item, spare item = false) (thins : Thins spare all fewer) :
    fewer = all := by
  have whole (items : List α) : items.filter (fun item => !spare item) = items :=
    List.filter_eq_self.mpr fun item _ => by rw [unspared]; rfl
  rw [← whole fewer, thins.kept, whole]

/-- What is selected from items is thinned with them. -/
theorem filterMap {select : α → Option β} {sparable : β → Bool}
    (agree : ∀ item value, select item = some value → sparable value = spare item)
    (thins : Thins spare all fewer) :
    Thins sparable (all.filterMap select) (fewer.filterMap select) where
  sublist := thins.sublist.filterMap select
  kept := by
    have commute (items : List α) : (items.filterMap select).filter (fun value => !sparable value) =
        (items.filter fun item => !spare item).filterMap select := by
      induction items with
      | nil => rfl
      | cons item rest induction =>
          cases selected : select item with
          | none => cases spared : spare item <;> simp [selected, spared, induction]
          | some value =>
              have same := agree item value selected
              cases spared : spare item <;> simp [selected, same, spared, induction]
    rw [commute, commute, thins.kept]

end Thins

/-! ## States -/

/-- The second state is like the first one, but may lack outputs that can be spared. -/
structure Hushed (spare : Bool × String → Bool) (loud quiet : State) : Prop where
  printed : Thins spare loud.view.printed quiet.view.printed
  errors : loud.errors = quiet.errors
  bindings : loud.bindings = quiet.bindings
  files : loud.files = quiet.files
  stops : loud.stops = quiet.stops

/-- To watchers it makes no difference whether outputs that can be spared are left out. -/
structure Surroundings.Heedless (spare : Bool × String → Bool) (surroundings : Surroundings) :
    Prop where
  same : ∀ ⦃loud quiet⦄, Hushed spare loud quiet → ∀ stdout text,
    surroundings.stopsAt ⟨stdout, text, loud.journal⟩ =
      surroundings.stopsAt ⟨stdout, text, quiet.journal⟩
  calm : ∀ stdout text, spare (stdout, text) = true → ∀ earlier,
    surroundings.stopsAt ⟨stdout, text, earlier⟩ = false

theorem Surroundings.Unwatched.heedless {surroundings : Surroundings}
    (unwatched : surroundings.Unwatched) (spare : Bool × String → Bool) :
    surroundings.Heedless spare where
  same := fun _ _ _ _ _ => (unwatched _).trans (unwatched _).symm
  calm := fun _ _ _ _ => unwatched _

namespace Hushed

variable {spare : Bool × String → Bool} {loud quiet : State}

theorem refl (spare : Bool × String → Bool) (state : State) : Hushed spare state state :=
  ⟨.refl spare _, rfl, rfl, rfl, rfl⟩

theorem isStopped (hushed : Hushed spare loud quiet) : loud.isStopped = quiet.isStopped :=
  congrArg (·.headD false) hushed.stops

theorem note (hushed : Hushed spare loud quiet) (event : Event) :
    Hushed spare (loud.note event) (quiet.note event) where
  printed := by
    rw [State.view_note, State.view_note]
    exact hushed.printed.append (.refl spare _)
  errors := hushed.errors
  bindings := hushed.bindings
  files := hushed.files
  stops := hushed.stops

theorem noteSpared (hushed : Hushed spare loud quiet) {stdout : Bool} {text : String}
    (spared : spare (stdout, text) = true) :
    Hushed spare (loud.note (.printed stdout text)) quiet where
  printed := by
    rw [State.view_note, ← List.append_nil quiet.view.printed]
    exact hushed.printed.append (.leaveOut spared)
  errors := hushed.errors
  bindings := hushed.bindings
  files := hushed.files
  stops := hushed.stops

/-- What is no output can be noted on one side only. -/
theorem noteUnseen (hushed : Hushed spare loud quiet) {event : Event}
    (unseen : event.output? = none) : Hushed spare (loud.note event) quiet where
  printed := by
    rw [State.view_note_of_unseen unseen]
    exact hushed.printed
  errors := hushed.errors
  bindings := hushed.bindings
  files := hushed.files
  stops := hushed.stops

theorem requestStop (hushed : Hushed spare loud quiet) :
    Hushed spare loud.requestStop quiet.requestStop where
  printed := hushed.printed
  errors := hushed.errors
  bindings := hushed.bindings
  files := hushed.files
  stops := congrArg (·.map fun _ => true) hushed.stops

theorem withStops (hushed : Hushed spare loud quiet) {stops others : List Bool}
    (same : stops = others) :
    Hushed spare { loud with stops := stops } { quiet with stops := others } :=
  ⟨hushed.printed, hushed.errors, hushed.bindings, hushed.files, same⟩

theorem showing (hushed : Hushed spare loud quiet) {bindings others : Variables}
    {errors messages : List String} (same : bindings = others) (reported : errors = messages) :
    Hushed spare { loud with bindings := bindings, errors := errors }
      { quiet with bindings := others, errors := messages } :=
  ⟨hushed.printed, reported, same, hushed.files, hushed.stops⟩

end Hushed

/-! ## Steps -/

/-- From states of which the second one is hushed, two parts end in the same way, or both
run out of fuel, and the second state stays hushed. -/
def InStep (spare : Bool × String → Bool) (part other : Run α) : Prop :=
  ∀ ⦃loud quiet⦄, Hushed spare loud quiet →
    (part.outcome loud).1 = (other.outcome quiet).1 ∧
      Hushed spare (part.outcome loud).2 (other.outcome quiet).2

namespace InStep

variable {spare : Bool × String → Bool} {part other : Run α} {next next' : α → Run β}

theorem pure (value : α) : InStep spare (Pure.pure value) (Pure.pure value) :=
  fun _ _ hushed => ⟨rfl, hushed⟩

theorem throw (fault : Fault) :
    InStep spare (MonadExcept.throw fault : Run α) (MonadExcept.throw fault) :=
  fun _ _ hushed => ⟨rfl, hushed⟩

theorem outOfFuel : InStep spare (Run.outOfFuel : Run α) Run.outOfFuel :=
  fun _ _ hushed => ⟨rfl, hushed⟩

/-- The parts that come second have to be in step only for what the first ones return. -/
theorem bind_of_returns {mid : α → Prop} (inStep : InStep spare part other)
    (returns : Returns mid part)
    (rest : ∀ value, mid value → InStep spare (next value) (next' value)) :
    InStep spare (part >>= next) (other >>= next') := by
  intro loud quiet hushed
  have first := inStep hushed
  have returned := @returns loud
  rw [Run.outcome_bind, Run.outcome_bind]
  generalize part.outcome loud = outcome at first returned ⊢
  generalize other.outcome quiet = reached at first ⊢
  rcases outcome with ⟨ended, middle⟩
  rcases reached with ⟨result, between⟩
  rcases first with ⟨same, still⟩
  dsimp only at same still
  subst same
  rcases ended with _ | fault | value
  · exact ⟨rfl, still⟩
  · exact ⟨rfl, still⟩
  · exact rest value (returned rfl) still

theorem bind (inStep : InStep spare part other)
    (rest : ∀ value, InStep spare (next value) (next' value)) :
    InStep spare (part >>= next) (other >>= next') :=
  inStep.bind_of_returns .anything fun value _ => rest value

theorem get {next next' : State → Run β}
    (rest : ∀ loud quiet, Hushed spare loud quiet → InStep spare (next loud) (next' quiet)) :
    InStep spare (MonadState.get >>= next) (MonadState.get >>= next') :=
  fun loud quiet hushed => rest loud quiet hushed hushed

theorem ofModify {change change' : State → State}
    (kept : ∀ loud quiet, Hushed spare loud quiet → Hushed spare (change loud) (change' quiet)) :
    InStep spare (modify change : Run Unit) (modify change') :=
  fun loud quiet hushed => ⟨rfl, kept loud quiet hushed⟩

theorem isStopped : InStep spare Run.isStopped Run.isStopped :=
  get fun loud quiet hushed => by
    rw [hushed.isStopped]
    exact pure _

theorem attempt (inStep : InStep spare part other) :
    InStep spare (Run.attempt part) (Run.attempt other) := by
  intro loud quiet hushed
  rcases inStep hushed with ⟨same, still⟩
  rw [Run.outcome_attempt, Run.outcome_attempt, same]
  exact ⟨rfl, still⟩

theorem ofExcept (result : Except Fault α) :
    InStep spare (Run.ofExcept result) (Run.ofExcept result) := by
  cases result with
  | error fault => exact throw fault
  | ok value => exact pure value

theorem inFrame (inStep : InStep spare part other) (stopped : Bool) :
    InStep spare (Run.inFrame stopped part) (Run.inFrame stopped other) := by
  unfold Run.inFrame
  refine bind (ofModify fun _ _ hushed => ?_) fun _ => ?_
  · exact hushed.withStops (congrArg (stopped :: ·) hushed.stops)
  · refine inStep.attempt.bind fun result => bind (ofModify fun _ _ hushed => ?_) fun _ => ?_
    · exact hushed.withStops (congrArg List.tail hushed.stops)
    · exact ofExcept result

theorem inInnerFrame (inStep : InStep spare part other) :
    InStep spare (Run.inInnerFrame part) (Run.inInnerFrame other) :=
  isStopped.bind fun stopped => inStep.inFrame stopped

/-! ### Changes -/

theorem note (event : Event) :
    InStep spare (modify (State.note event)) (modify (State.note event)) :=
  ofModify fun _ _ hushed => hushed.note event

/-- Something that is no output is noted, and then the parts are in step. -/
theorem noteUnseen (inStep : InStep spare part other) {event : Event}
    (unseen : event.output? = none) :
    InStep spare (modify (State.note event) >>= fun _ => part) other :=
  fun _ _ hushed => inStep (hushed.noteUnseen unseen)

theorem log (records : List Log.Record) :
    InStep spare (modify fun state => records.foldl (fun state record =>
        state.note (.logged record)) state : Run Unit)
      (modify fun state => records.foldl (fun state record =>
        state.note (.logged record)) state) := by
  refine ofModify fun loud quiet hushed => ?_
  induction records generalizing loud quiet with
  | nil => exact hushed
  | cons record rest induction => exact induction _ _ (hushed.note (.logged record))

theorem addError (message : String) :
    InStep spare (Run.addError message) (Run.addError message) :=
  ofModify fun _ _ hushed =>
    hushed.showing hushed.bindings (congrArg (· ++ [message]) hushed.errors)

theorem rebind (change : Variables → Variables) :
    InStep spare (modify fun state => { state with bindings := change state.bindings } : Run Unit)
      (modify fun state => { state with bindings := change state.bindings }) :=
  ofModify fun _ _ hushed => hushed.showing (congrArg change hushed.bindings) hushed.errors

theorem setFiles (files : Files.FileSystem) :
    InStep spare (Run.setFiles files) (Run.setFiles files) :=
  ofModify fun _ _ hushed =>
    ⟨hushed.printed, hushed.errors, hushed.bindings, rfl, hushed.stops⟩

section Printing

variable {surroundings : Surroundings} (heedless : surroundings.Heedless spare)
include heedless

theorem print (stdout : Bool) (text : String) :
    InStep spare (surroundings.print stdout text) (surroundings.print stdout text) := by
  refine ofModify fun loud quiet hushed => ?_
  dsimp only
  rw [heedless.same hushed]
  split
  · exact (hushed.note _).requestStop
  · exact hushed.note _

/-- An output that can be spared is left out. -/
theorem printSpared {stdout : Bool} {text : String} (spared : spare (stdout, text) = true) :
    InStep spare (surroundings.print stdout text) (Pure.pure ()) := by
  intro loud quiet hushed
  refine ⟨rfl, ?_⟩
  rw [Surroundings.print, Run.outcome_modify, heedless.calm stdout text spared]
  exact hushed.noteSpared spared

end Printing

/-- Of runs that are in step, both come to an end or neither does. -/
theorem run (inStep : InStep spare part other) {loud quiet : State}
    (hushed : Hushed spare loud quiet) {related : State → State → Prop}
    (relates : ∀ loud quiet, Hushed spare loud quiet → related loud quiet) :
    Option.Rel (fun ended reached => ended.1 = reached.1 ∧ related ended.2 reached.2)
      (part.run loud) (other.run quiet) := by
  rcases inStep hushed with ⟨same, still⟩
  unfold Run.run
  generalize part.outcome loud = outcome at same still ⊢
  generalize other.outcome quiet = reached at same still ⊢
  rcases outcome with ⟨ended, final⟩
  rcases reached with ⟨result, after⟩
  dsimp only at same still
  subst same
  cases ended with
  | none => exact .none
  | some ended => exact .some ⟨rfl, relates final after still⟩

end InStep

/-- An elementary part keeps in step with itself. -/
theorem Elementary.inStep {spare : Bool × String → Bool} {surroundings : Surroundings}
    {post : α → Prop} {part : Run α} (elementary : Elementary surroundings post part)
    (heedless : surroundings.Heedless spare) : InStep spare part part := by
  induction elementary with
  | pure => exact .pure _
  | throw fault => exact .throw fault
  | bind elementary _ first rest => exact first.bind_of_returns elementary.returns rest
  | attempt _ induction => exact induction.attempt
  | get reads _ rest =>
      refine .get fun loud quiet hushed => ?_
      rw [reads loud, hushed.bindings, hushed.files, ← reads quiet]
      exact rest quiet
  | isStopped => exact .isStopped
  | print stdout text => exact .print heedless stdout text
  | log records => exact .log records
  | rebind change => exact .rebind change
  | setFiles files => exact .setFiles files

end Runbook
