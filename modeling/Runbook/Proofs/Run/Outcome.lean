import Runbook.Run

/-! # Outcomes of runs

What the steps that runs are made of come to: how each of them ends, and the state
that it leaves behind.
-/

namespace Runbook

namespace Run

variable {α β : Type}

instance : LawfulMonad Run :=
  inferInstanceAs (LawfulMonad (ExceptT Fault (OptionT (StateM State))))

/-- Go on after a part of a run, unless it has ended in a fault or run out of fuel. -/
def proceed (next : α → Run β) :
    Option (Except Fault α) × State → Option (Except Fault β) × State
  | (some (.ok value), state) => (next value).outcome state
  | (some (.error fault), state) => (some (.error fault), state)
  | (none, state) => (none, state)

theorem run_eq_some_iff {part : Run α} {state final : State} {result : Except Fault α} :
    part.run state = some (result, final) ↔ part.outcome state = (some result, final) := by
  unfold run
  rcases part.outcome state with ⟨_ | ended, after⟩
  · simp
  · simp

/-- A run of a fixed part has a value if evaluation shows this value. -/
theorem outcome_eq_ok (part : Run α) (state : State) (value : α)
    (ended : (part.outcome state).1.bind Except.toOption = some value) :
    part.outcome state = (some (.ok value), (part.outcome state).2) := by
  generalize part.outcome state = outcome at ended ⊢
  rcases outcome with ⟨_ | _ | _, final⟩
  · cases ended
  · cases ended
  · cases ended
    rfl

/-- A run of a fixed part ends in a value if evaluation shows this value. -/
theorem exists_run_eq_ok {part : Run α} {state : State} {value : α}
    (ended : (part.run state).map (fun ended => ended.1.toOption) = some (some value)) :
    ∃ final, part.run state = some (.ok value, final) := by
  rcases Option.map_eq_some_iff.mp ended with ⟨⟨_ | _, final⟩, ran, returned⟩
  · cases returned
  · cases returned
    exact ⟨final, ran⟩

@[simp] theorem outcome_ofOutcome (outcome : State → Option (Except Fault α) × State)
    (state : State) : (ofOutcome outcome).outcome state = outcome state := rfl

@[simp] theorem outcome_pure (value : α) (state : State) :
    (pure value : Run α).outcome state = (some (.ok value), state) := rfl

theorem outcome_bind (part : Run α) (next : α → Run β) (state : State) :
    (part >>= next).outcome state = proceed next (part.outcome state) := by
  have same : part.outcome state = (ExceptT.run part).run state := rfl
  change OptionT.bind (ExceptT.run part : OptionT (StateM State) (Except Fault α))
    (ExceptT.bindCont next : Except Fault α → OptionT (StateM State) (Except Fault β)) state = _
  rw [OptionT.bind, OptionT.mk]
  change StateT.bind (OptionT.run (ExceptT.run part)) _ state = _
  rw [same, StateT.bind]
  rcases (ExceptT.run part).run state with ⟨_ | _ | _, after⟩ <;> rfl

/-- Two parts in a row have ended because both of them have, or because the first one
ended in a fault. -/
theorem outcome_bind_ended {part : Run α} {next : α → Run β} {state final : State}
    {result : Except Fault β} (ended : (part >>= next).outcome state = (some result, final)) :
    (∃ value middle, part.outcome state = (some (.ok value), middle) ∧
        (next value).outcome middle = (some result, final)) ∨
      ∃ fault, part.outcome state = (some (.error fault), final) ∧ result = .error fault := by
  rw [outcome_bind] at ended
  generalize part.outcome state = outcome at ended ⊢
  rcases outcome with ⟨_ | fault | value, middle⟩
  · cases ended
  · cases ended
    exact .inr ⟨fault, rfl, rfl⟩
  · exact .inl ⟨value, middle, rfl, ended⟩

/-- Parts in a row end as the second one does, unless the first one ends in a fault. -/
theorem run_bind (part : Run α) (next : α → Run β) (state : State) :
    (part >>= next).run state = (part.run state).bind fun
      | (.ok value, middle) => (next value).run middle
      | (.error fault, middle) => some (.error fault, middle) := by
  rw [run, run, outcome_bind]
  rcases part.outcome state with ⟨_ | _ | _, middle⟩ <;> rfl

/-- A part whose value is changed at its end. -/
theorem run_bind_pure (part : Run α) (change : α → β) (state : State) :
    (part >>= fun value => pure (change value)).run state =
      (part.run state).map fun ended => (ended.1.map change, ended.2) := by
  rw [run, run, outcome_bind]
  rcases part.outcome state with ⟨_ | _ | _, final⟩ <;> rfl

@[simp] theorem outcome_throw (fault : Fault) (state : State) :
    (throw fault : Run α).outcome state = (some (.error fault), state) := rfl

@[simp] theorem outcome_get (state : State) :
    (get : Run State).outcome state = (some (.ok state), state) := rfl

@[simp] theorem outcome_set (state after : State) :
    (set after : Run Unit).outcome state = (some (.ok ()), after) := rfl

@[simp] theorem outcome_modify (change : State → State) (state : State) :
    (modify change : Run Unit).outcome state = (some (.ok ()), change state) := rfl

@[simp] theorem outcome_isStopped (state : State) :
    isStopped.outcome state = (some (.ok state.isStopped), state) := rfl

@[simp] theorem outcome_record (level : Log.Level) (message : String) (state : State) :
    (record level message).outcome state =
      (some (.ok ()), state.note (.logged ⟨level, message⟩)) := rfl

@[simp] theorem outcome_setFiles (files : Files.FileSystem) (state : State) :
    (setFiles files).outcome state = (some (.ok ()), { state with files := files }) := rfl

@[simp] theorem outcome_outOfFuel (state : State) :
    (outOfFuel : Run α).outcome state = (none, state) := rfl

@[simp] theorem outcome_attempt (part : Run α) (state : State) :
    (attempt part).outcome state =
      ((part.outcome state).1.map .ok, (part.outcome state).2) := rfl

theorem run_attempt (part : Run α) (state : State) :
    (attempt part).run state = (part.run state).map fun (result, final) => (.ok result, final) := by
  rw [run, run, outcome_attempt]
  rcases part.outcome state with ⟨_ | _, final⟩ <;> rfl

theorem outcome_ofLogged (computation : Logged α) (state : State) :
    (ofLogged computation).outcome state = (some computation.outcome.1,
      computation.outcome.2.foldl (fun state record => state.note (.logged record)) state) := by
  unfold ofLogged
  rcases computation.outcome with ⟨_ | _, records⟩
  · rfl
  · rfl

/-- When the part in a frame has ended, the frame is gone. -/
def leaveFrame : Option (Except Fault α) × State → Option (Except Fault α) × State
  | (none, inner) => (none, inner)
  | (some result, inner) => (some result, { inner with stops := inner.stops.tail })

theorem outcome_inFrame (stopped : Bool) (part : Run α) (state : State) :
    (inFrame stopped part).outcome state =
      leaveFrame (part.outcome { state with stops := stopped :: state.stops }) := by
  simp only [inFrame, outcome_bind, outcome_modify, proceed, outcome_attempt]
  rcases part.outcome _ with ⟨_ | fault | value, inner⟩
  · rfl
  · rfl
  · rfl

theorem outcome_inInnerFrame (part : Run α) (state : State) :
    (inInnerFrame part).outcome state = (inFrame state.isStopped part).outcome state := rfl

end Run

/-! ## Returned values -/

variable {α β : Type}

/-- Every value that a part of a run has is one of those that `post` holds of. -/
def Returns (post : α → Prop) (part : Run α) : Prop :=
  ∀ ⦃state value final⦄, part.outcome state = (some (.ok value), final) → post value

namespace Returns

variable {mid : α → Prop} {post : β → Prop} {part : Run α} {next : α → Run β}

theorem anything : Returns (fun _ => True) part := fun _ _ _ _ => trivial

theorem pure {value : α} (holds : mid value) : Returns mid (Pure.pure value) := by
  rintro state _ final ⟨⟩
  exact holds

theorem throw (fault : Fault) : Returns mid (MonadExcept.throw fault) := by
  rintro state _ final ⟨⟩

theorem bind (first : Returns mid part) (rest : ∀ value, mid value → Returns post (next value)) :
    Returns post (part >>= next) := by
  intro state value final ended
  rcases Run.outcome_bind_ended ended with ⟨_, _, returned, second⟩ | ⟨_, _, faulty⟩
  · exact rest _ (first returned) second
  · cases faulty

/-- What a part returns depends on what comes last. -/
theorem after (rest : ∀ value, Returns post (next value)) : Returns post (part >>= next) :=
  bind anything fun value _ => rest value

theorem attempt (returns : Returns mid part) :
    Returns (fun result => ∀ value, result = .ok value → mid value) (Run.attempt part) := by
  rintro state _ final ended value rfl
  rw [Run.outcome_attempt, Prod.mk.injEq, Option.map_eq_some_iff] at ended
  rcases ended with ⟨⟨_, first, ⟨⟩⟩, rfl⟩
  exact returns (Prod.ext first rfl)

end Returns

end Runbook
