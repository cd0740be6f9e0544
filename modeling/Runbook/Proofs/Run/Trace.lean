import Runbook.Proofs.Run.Outcome

/-! # Traces of runs

What a part of a run adds to the journal is its trace. The trace also tells what
becomes of the stop flags: they stay as they are until a watcher asks for a stop,
and from then on all of them are set. A rule says more about the trace of a part and
the states around it; parts in a row obey a rule if their rules join up to it.
-/

namespace Runbook

/-! ## Stop requests -/

/-- Whether a watcher asks for a stop at an event. The events before it are held newest
first. -/
def Event.asksStop (stopsAt : Sighting → Bool) (earlier : List Event) : Event → Bool
  | .printed stdout text => stopsAt ⟨stdout, text, earlier⟩
  | .began _ | .started _ | .logged _ => false

/-- Whether a watcher asks for a stop at any of some events, which are in order. -/
def requested (stopsAt : Sighting → Bool) : (earlier : List Event) → List Event → Bool
  | _, [] => false
  | earlier, event :: rest =>
      event.asksStop stopsAt earlier || requested stopsAt (event :: earlier) rest

theorem requested_append (stopsAt : Sighting → Bool) (earlier first second : List Event) :
    requested stopsAt earlier (first ++ second) =
      (requested stopsAt earlier first || requested stopsAt (first.reverse ++ earlier) second) := by
  induction first generalizing earlier with
  | nil => simp [requested]
  | cons event rest induction => simp [requested, induction, Bool.or_assoc]

/-- Stop flags after a stop may have been asked for. -/
def raised (asked : Bool) (stops : List Bool) : List Bool :=
  if asked then stops.map fun _ => true else stops

@[simp] theorem raised_false (stops : List Bool) : raised false stops = stops := rfl

theorem raised_raised (first second : Bool) (stops : List Bool) :
    raised second (raised first stops) = raised (first || second) stops := by
  cases first <;> cases second <;> simp [raised]

theorem tail_raised (asked stopped : Bool) (stops : List Bool) :
    (raised asked (stopped :: stops)).tail = raised asked stops := by
  cases asked <;> rfl

/-! ## Rules -/

/-- What is said about a state, the events that follow it in order, and the state after
these. -/
abbrev Rule := State → List Event → State → Prop

/-- The trace of a part of a run that started in `state`. -/
structure Traced {α : Type} (stopsAt : Sighting → Bool) (rule : Rule) (post : α → Prop)
    (state : State) (events : List Event) (outcome : Option (Except Fault α) × State) :
    Prop where
  journal : outcome.2.journal = events.reverse ++ state.journal
  stops : outcome.1 ≠ none →
    outcome.2.stops = raised (requested stopsAt state.journal events) state.stops
  rule : rule state events outcome.2
  post : ∀ value, outcome.1 = some (.ok value) → post value

/-- A part of a run obeys a rule wherever it starts. If it has a value, `post` holds of
it. -/
def Obeys {α : Type} (stopsAt : Sighting → Bool) (rule : Rule) (post : α → Prop)
    (part : Run α) : Prop :=
  ∀ state, ∃ events, Traced stopsAt rule post state events (part.outcome state)

/-- Events that obey `first` and then events that obey `second` obey `whole`. -/
def Joins (stopsAt : Sighting → Bool) (first second whole : Rule) : Prop :=
  ∀ ⦃state middle final : State⦄ ⦃before after : List Event⦄,
    middle.journal = before.reverse ++ state.journal →
    middle.stops = raised (requested stopsAt state.journal before) state.stops →
    first state before middle → second middle after final → whole state (before ++ after) final

namespace Obeys

variable {α β : Type} {stopsAt : Sighting → Bool} {first second whole rule : Rule}
  {mid : α → Prop} {post : β → Prop} {part : Run α} {next : α → Run β}

theorem mono (obeys : Obeys stopsAt rule mid part) {weaker : α → Prop}
    (weakens : ∀ ⦃state events final⦄, rule state events final → whole state events final)
    (follows : ∀ value, mid value → weaker value) : Obeys stopsAt whole weaker part := by
  intro state
  rcases obeys state with ⟨events, traced⟩
  exact ⟨events, traced.journal, traced.stops, weakens traced.rule,
    fun value returned => follows value (traced.post value returned)⟩

/-- Parts in a row. The first part alone must obey the rule as well, for it can end in
a fault. -/
theorem bind (joins : Joins stopsAt first second whole)
    (alone : ∀ ⦃state events final⦄, first state events final → whole state events final)
    (obeys : Obeys stopsAt first mid part)
    (rest : ∀ value, mid value → Obeys stopsAt second post (next value)) :
    Obeys stopsAt whole post (part >>= next) := by
  intro state
  rcases obeys state with ⟨before, traced⟩
  rw [Run.outcome_bind]
  generalize part.outcome state = outcome at traced ⊢
  rcases outcome with ⟨_ | fault | value, middle⟩
  · exact ⟨before, traced.journal, fun finished => absurd rfl finished, alone traced.rule,
      fun value returned => by simp [Run.proceed] at returned⟩
  · exact ⟨before, traced.journal, fun _ => traced.stops (by simp), alone traced.rule,
      fun value returned => by simp [Run.proceed] at returned⟩
  · have flags := traced.stops (by simp)
    have history := traced.journal
    simp only at flags history
    rcases rest value (traced.post value rfl) middle with ⟨after, further⟩
    refine ⟨before ++ after, ?_, ?_, joins history flags traced.rule further.rule, further.post⟩
    · rw [Run.proceed, further.journal, history, List.reverse_append, List.append_assoc]
    · intro finished
      rw [Run.proceed, further.stops finished, flags, history, raised_raised, requested_append]

theorem attempt (obeys : Obeys stopsAt rule mid part) :
    Obeys stopsAt rule (fun result => ∀ value, result = .ok value → mid value)
      (Run.attempt part) := by
  intro state
  rcases obeys state with ⟨events, traced⟩
  refine ⟨events, traced.journal, ?_, traced.rule, ?_⟩
  · intro finished
    exact traced.stops fun unfinished => finished (by simp [unfinished])
  · rintro result returned value rfl
    rw [Run.outcome_attempt] at returned
    rcases Option.map_eq_some_iff.mp returned with ⟨result, ended, same⟩
    cases same
    exact traced.post value ended

section Still

variable (still : ∀ state, rule state [] state)
include still

theorem pure {value : α} (holds : mid value) : Obeys stopsAt rule mid (Pure.pure value) :=
  fun state => ⟨[], rfl, fun _ => rfl, still state, by rintro _ ⟨⟩; exact holds⟩

theorem throw (fault : Fault) : Obeys stopsAt rule mid (MonadExcept.throw fault) :=
  fun state => ⟨[], rfl, fun _ => rfl, still state, by rintro _ ⟨⟩⟩

theorem outOfFuel : Obeys stopsAt rule mid Run.outOfFuel :=
  fun state => ⟨[], rfl, fun _ => rfl, still state, by rintro _ ⟨⟩⟩

theorem get : Obeys stopsAt rule (fun _ => True) (MonadState.get : Run State) :=
  fun state => ⟨[], rfl, fun _ => rfl, still state, fun _ _ => trivial⟩

theorem ofExcept (result : Except Fault α) :
    Obeys stopsAt rule (fun _ => True) (Run.ofExcept result) := by
  cases result with
  | error fault => exact throw still fault
  | ok value => exact pure still trivial

theorem isStopped : Obeys stopsAt rule (fun _ => True) Run.isStopped :=
  fun state => ⟨[], rfl, fun _ => rfl, still state, fun _ _ => trivial⟩

end Still

end Obeys

end Runbook
