import Runbook.Proofs.Run.Calm

/-! # Heeding stop requests

A stop request is heeded if no line begins afterwards. It can be lost only on a command
that runs lines and that is started after the request, and then the lines of this command
begin. Each rule says how some events treat the requests made among them, and those made
before; the rules join, and they pass through frames.
-/

namespace Runbook

/-- Whether a request is lost that some events follow: the line in progress goes on to
start a command that runs lines, and a line of it begins. -/
def losesRequest (after : List Event) : Bool :=
  match marks after with
  | .started command :: .began _ :: _ => command.runsLines
  | _ => false

def Quiet (events : List Event) : Prop := ∀ line, Event.began line ∉ events

/-- No line begins after a request that is not lost. -/
def Heeded (stopsAt : Sighting → Bool) : (earlier : List Event) → List Event → Prop
  | _, [] => True
  | earlier, event :: after =>
      (event.asksStop stopsAt earlier = true → losesRequest after = false → Quiet after) ∧
        Heeded stopsAt (event :: earlier) after

theorem isMark_of_mem_marks {mark : Event} {events : List Event} (member : mark ∈ marks events) :
    mark.isMark = true :=
  (List.mem_filter.mp member).2

theorem quiet_iff_marks {events : List Event} :
    Quiet events ↔ ∀ line, Event.began line ∉ marks events := by
  simp [Quiet, marks, Event.isMark]

theorem quiet_of_marks {events : List Event} (calm : marks events = []) : Quiet events := by
  rw [quiet_iff_marks, calm]
  simp

theorem Quiet.append {before after : List Event} (first : Quiet before) (second : Quiet after) :
    Quiet (before ++ after) := by
  intro line member
  rcases List.mem_append.mp member with member | member
  · exact first line member
  · exact second line member

theorem losesRequest_append {before : List Event} (loses : losesRequest before = true)
    (after : List Event) : losesRequest (before ++ after) = true := by
  rw [losesRequest, marks_append]
  rw [losesRequest] at loses
  split at loses
  · rename_i command line rest shape
    rw [shape]
    exact loses
  · contradiction

theorem losesRequest_append_of_calm {before : List Event} (calm : marks before = [])
    (after : List Event) : losesRequest (before ++ after) = losesRequest after := by
  rw [losesRequest, marks_append, calm, List.nil_append, losesRequest]

section Heeded

variable {stopsAt : Sighting → Bool} {earlier before after : List Event}

theorem heeded_of_quiet (quiet : Quiet after) : Heeded stopsAt earlier after := by
  induction after generalizing earlier with
  | nil => trivial
  | cons event after induction =>
      have rest : Quiet after := fun line member => quiet line (List.mem_cons_of_mem _ member)
      exact ⟨fun _ _ => rest, induction rest⟩

/-- Once a request has been made, the events that follow must be quiet. -/
theorem Heeded.append (first : Heeded stopsAt earlier before)
    (second : Heeded stopsAt (before.reverse ++ earlier) after)
    (quiet : requested stopsAt earlier before = true → Quiet after) :
    Heeded stopsAt earlier (before ++ after) := by
  induction before generalizing earlier with
  | nil => exact second
  | cons event before induction =>
      rcases first with ⟨heeds, rest⟩
      rw [requested] at quiet
      refine ⟨fun asked heard => ?_, induction rest (by simpa using second) fun asked => ?_⟩
      · have kept : losesRequest before = false := by
          rw [Bool.eq_false_iff] at heard ⊢
          exact fun loses => heard (losesRequest_append loses after)
        exact (heeds asked kept).append (quiet (by simp [asked]))
      · exact quiet (by simp [asked])

/-- What follows calm events has to be quiet unless it loses the requests made in them. -/
theorem heeded_calm_append (calm : marks before = [])
    (second : Heeded stopsAt (before.reverse ++ earlier) after)
    (quiet : losesRequest after = false → Quiet after) :
    Heeded stopsAt earlier (before ++ after) := by
  induction before generalizing earlier with
  | nil => exact second
  | cons event before induction =>
      have rest : marks before = [] := by
        rw [marks, List.filter_eq_nil_iff] at calm ⊢
        exact fun other member => calm other (List.mem_cons_of_mem _ member)
      refine ⟨fun _ heard => ?_, induction rest (by simpa using second)⟩
      have kept : losesRequest after = false :=
        (losesRequest_append_of_calm rest after).symm.trans heard
      exact (quiet_of_marks rest).append (quiet kept)

/-- What a trace says about each of its events. -/
theorem Heeded.quiet {event : Event}
    (heeded : Heeded stopsAt earlier (before ++ event :: after))
    (asked : event.asksStop stopsAt (before.reverse ++ earlier) = true)
    (heard : losesRequest after = false) : Quiet after := by
  induction before generalizing earlier with
  | nil => exact heeded.1 asked heard
  | cons first before induction => exact induction heeded.2 (by simpa using asked)

end Heeded

/-! ## Rules -/

/-- The first that happens is that a line begins. -/
def BeginsFirst (events : List Event) : Prop :=
  ∀ command rest, marks events ≠ .started command :: rest

theorem beginsFirst_of_calm {events : List Event} (calm : marks events = []) :
    BeginsFirst events := by
  intro command rest shape
  rw [calm] at shape
  contradiction

theorem BeginsFirst.append {before after : List Event} (first : BeginsFirst before)
    (second : BeginsFirst after) : BeginsFirst (before ++ after) := by
  intro command rest shape
  rw [marks_append] at shape
  cases none_ : marks before with
  | nil =>
      rw [none_] at shape
      exact second command rest shape
  | cons mark others =>
      rw [none_, List.cons_append, List.cons.injEq] at shape
      exact first command others (by rw [none_, shape.1])

/-- Events in which requests are heeded. -/
structure Orderly (stopsAt : Sighting → Bool) (state : State) (events : List Event) : Prop where
  heeded : Heeded stopsAt state.journal events
  beginsFirst : BeginsFirst events

/-- Events in which earlier requests are heeded as well. -/
structure Heeding (stopsAt : Sighting → Bool) (state : State) (events : List Event) : Prop
    extends Orderly stopsAt state events where
  quiet : state.isStopped = true → Quiet events

/-- Events in which requests are heeded, and which lose any earlier request if they are
not quiet. -/
structure Contained (stopsAt : Sighting → Bool) (state : State) (events : List Event) : Prop where
  heeded : Heeded stopsAt state.journal events
  quiet : losesRequest events = false → Quiet events

namespace Rule

/-- Any number of errors may be recorded. -/
def plain : Rule := fun _ events _ => marks events = []

def orderly (stopsAt : Sighting → Bool) : Rule :=
  fun state events _ => state.stops ≠ [] → Orderly stopsAt state events

def heeding (stopsAt : Sighting → Bool) : Rule :=
  fun state events _ => state.stops ≠ [] → Heeding stopsAt state events

def contained (stopsAt : Sighting → Bool) : Rule :=
  fun state events _ => state.stops ≠ [] → Contained stopsAt state events

end Rule

section Rules

variable {stopsAt : Sighting → Bool} {state middle final : State}
  {before after events : List Event}

theorem heeding_of_plain (plain : Rule.plain state events final) :
    Rule.heeding stopsAt state events final := fun _ =>
  have quiet := quiet_of_marks plain
  ⟨⟨heeded_of_quiet quiet, beginsFirst_of_calm plain⟩, fun _ => quiet⟩

theorem contained_of_plain (plain : Rule.plain state events final) :
    Rule.contained stopsAt state events final := fun _ =>
  have quiet := quiet_of_marks plain
  ⟨heeded_of_quiet quiet, fun _ => quiet⟩

theorem orderly_of_heeding (heeding : Rule.heeding stopsAt state events final) :
    Rule.orderly stopsAt state events final := fun framed => (heeding framed).toOrderly

theorem isStopped_raised {asked : Bool} (framed : state.stops ≠ [])
    (flags : middle.stops = raised asked state.stops)
    (reason : asked = true ∨ state.isStopped = true) : middle.isStopped = true := by
  rw [State.isStopped] at reason ⊢
  rw [flags]
  cases stops : state.stops with
  | nil => contradiction
  | cons stopped rest =>
      rw [stops] at reason
      cases asked with
      | true => rfl
      | false => simpa using reason

theorem raised_ne_nil {asked : Bool} {stops : List Bool} (framed : stops ≠ []) :
    raised asked stops ≠ [] := by
  cases asked <;> simpa [raised] using framed

theorem joins_plain : Joins stopsAt .plain .plain .plain := by
  intro state middle final before after _ _ first second
  rw [Rule.plain] at first second ⊢
  rw [marks_append, first, second, List.nil_append]

theorem joins_orderly_heeding :
    Joins stopsAt (.orderly stopsAt) (.heeding stopsAt) (.orderly stopsAt) := by
  intro state middle final before after history flags first second framed
  have orderly := first framed
  have heeding := second (flags ▸ raised_ne_nil framed)
  refine ⟨orderly.heeded.append (history ▸ heeding.heeded) fun asked => ?_,
    orderly.beginsFirst.append heeding.beginsFirst⟩
  exact heeding.quiet (isStopped_raised framed flags (.inl asked))

theorem joins_heeding :
    Joins stopsAt (.heeding stopsAt) (.heeding stopsAt) (.heeding stopsAt) := by
  intro state middle final before after history flags first second framed
  have orderly := joins_orderly_heeding history flags (orderly_of_heeding first) second framed
  refine ⟨orderly, fun stopped => ?_⟩
  have heeding := second (flags ▸ raised_ne_nil framed)
  exact ((first framed).quiet stopped).append
    (heeding.quiet (isStopped_raised framed flags (.inr stopped)))

theorem joins_plain_contained :
    Joins stopsAt .plain (.contained stopsAt) (.contained stopsAt) := by
  intro state middle final before after history flags first second framed
  have contained := second (flags ▸ raised_ne_nil framed)
  refine ⟨heeded_calm_append first (history ▸ contained.heeded) contained.quiet, fun heard => ?_⟩
  rw [losesRequest_append_of_calm first] at heard
  exact (quiet_of_marks first).append (contained.quiet heard)

theorem joins_contained_plain :
    Joins stopsAt (.contained stopsAt) .plain (.contained stopsAt) := by
  intro state middle final before after history flags first second framed
  have contained := first framed
  have quiet := quiet_of_marks second
  refine ⟨contained.heeded.append (heeded_of_quiet quiet) fun _ => quiet, fun heard => ?_⟩
  rw [losesRequest, marks_append, second, List.append_nil, ← losesRequest] at heard
  exact (contained.quiet heard).append quiet

end Rules

/-! ## Parts that heed requests -/

variable {α β : Type} {stopsAt : Sighting → Bool} {part : Run α} {next : α → Run β}

abbrev Plain (stopsAt : Sighting → Bool) (part : Run α) : Prop :=
  Obeys stopsAt .plain (fun _ => True) part

abbrev Heeds (stopsAt : Sighting → Bool) (part : Run α) : Prop :=
  Obeys stopsAt (.heeding stopsAt) (fun _ => True) part

/-- A part of a run that either begins no line or loses the request before it. -/
abbrev Contains (stopsAt : Sighting → Bool) (part : Run α) : Prop :=
  Obeys stopsAt (.contained stopsAt) (fun _ => True) part

theorem Calm.plain {post : α → Prop} (calm : Calm stopsAt post part) : Plain stopsAt part :=
  calm.mono (fun _ _ _ obeyed => obeyed.1) fun _ _ => trivial

namespace Plain

theorem bind (plain : Plain stopsAt part) (rest : ∀ value, Plain stopsAt (next value)) :
    Plain stopsAt (part >>= next) :=
  Obeys.bind joins_plain (fun _ _ _ obeyed => obeyed) plain fun value _ => rest value

theorem pure {value : α} : Plain stopsAt (Pure.pure value) := Obeys.pure (fun _ => rfl) trivial

theorem throw (fault : Fault) : Plain stopsAt (MonadExcept.throw fault : Run α) :=
  Obeys.throw (fun _ => rfl) fault

theorem addError (message : String) : Plain stopsAt (Run.addError message) :=
  fun _ => ⟨[], rfl, fun _ => rfl, rfl, fun _ _ => trivial⟩

theorem attempt (plain : Plain stopsAt part) : Plain stopsAt (Run.attempt part) :=
  (Obeys.attempt plain).mono (fun _ _ _ obeyed => obeyed) fun _ _ => trivial

theorem heeds (plain : Plain stopsAt part) : Heeds stopsAt part :=
  plain.mono (fun _ _ _ obeyed => heeding_of_plain obeyed) fun _ holds => holds

theorem contains (plain : Plain stopsAt part) : Contains stopsAt part :=
  plain.mono (fun _ _ _ obeyed => contained_of_plain obeyed) fun _ holds => holds

theorem bindContains (plain : Plain stopsAt part)
    (rest : ∀ value, Contains stopsAt (next value)) : Contains stopsAt (part >>= next) :=
  Obeys.bind joins_plain_contained (fun _ _ _ obeyed => contained_of_plain obeyed) plain
    fun value _ => rest value

end Plain

theorem Contains.bindPlain (contains : Contains stopsAt part)
    (rest : ∀ value, Plain stopsAt (next value)) : Contains stopsAt (part >>= next) :=
  Obeys.bind joins_contained_plain (fun _ _ _ obeyed => obeyed) contains fun value _ => rest value

theorem Heeds.bind (heeds : Heeds stopsAt part) (rest : ∀ value, Heeds stopsAt (next value)) :
    Heeds stopsAt (part >>= next) :=
  Obeys.bind joins_heeding (fun _ _ _ obeyed => obeyed) heeds fun value _ => rest value

theorem Heeds.attempt (heeds : Heeds stopsAt part) : Heeds stopsAt (Run.attempt part) :=
  (Obeys.attempt heeds).mono (fun _ _ _ obeyed => obeyed) fun _ _ => trivial

theorem Heeds.outOfFuel : Heeds stopsAt (Run.outOfFuel : Run α) :=
  Obeys.outOfFuel fun state => heeding_of_plain (show Rule.plain state [] state from rfl)

/-! ## Frames -/

theorem traced_inFrame {inner outer : Rule} {post : α → Prop} {stopped : Bool} {state : State}
    {events : List Event}
    (traced : Traced stopsAt inner post { state with stops := stopped :: state.stops } events
      (part.outcome { state with stops := stopped :: state.stops }))
    (lifted : ∀ final, outer state events final) :
    Traced stopsAt outer post state events ((Run.inFrame stopped part).outcome state) := by
  unfold Run.inFrame
  simp only [Run.outcome_bind, Run.outcome_modify, Run.proceed, Run.outcome_attempt]
  generalize part.outcome _ = outcome at traced ⊢
  rcases outcome with ⟨_ | fault | value, final⟩
  · exact ⟨traced.journal, fun finished => absurd rfl finished, lifted _,
      fun value returned => by contradiction⟩
  · have flags := traced.stops (by simp)
    refine ⟨traced.journal, fun _ => ?_, lifted _, fun value returned => by cases returned⟩
    change final.stops.tail = _
    rw [flags, tail_raised]
  · have flags := traced.stops (by simp)
    refine ⟨traced.journal, fun _ => ?_, lifted _, fun value returned => ?_⟩
    · change final.stops.tail = _
      rw [flags, tail_raised]
    · cases returned
      exact traced.post value rfl

/-- A part in a frame of its own is orderly, whether or not it has been asked to stop. -/
theorem Heeds.inFrame (heeds : Heeds stopsAt part) (stopped : Bool) :
    Obeys stopsAt (fun state events _ => Orderly stopsAt state events) (fun _ => True)
      (Run.inFrame stopped part) := by
  intro state
  rcases heeds { state with stops := stopped :: state.stops } with ⟨events, traced⟩
  have heeding := traced.rule (List.cons_ne_nil stopped state.stops)
  exact ⟨events, traced_inFrame traced fun _ => ⟨heeding.heeded, heeding.beginsFirst⟩⟩

theorem Contains.inFrame (contains : Contains stopsAt part) (stopped : Bool) :
    Contains stopsAt (Run.inFrame stopped part) := by
  intro state
  rcases contains { state with stops := stopped :: state.stops } with ⟨events, traced⟩
  have contained := traced.rule (List.cons_ne_nil stopped state.stops)
  exact ⟨events, traced_inFrame traced fun _ _ => ⟨contained.heeded, contained.quiet⟩⟩

/-- What has been asked to stop passes this on to what it begins. -/
theorem Heeds.inInnerFrame (heeds : Heeds stopsAt part) :
    Heeds stopsAt (Run.inInnerFrame part) := by
  intro state
  have same : (Run.inInnerFrame part).outcome state =
      (Run.inFrame state.isStopped part).outcome state := rfl
  rcases heeds { state with stops := state.isStopped :: state.stops } with ⟨events, traced⟩
  have heeding := traced.rule (List.cons_ne_nil _ state.stops)
  rw [same]
  exact ⟨events, traced_inFrame traced fun _ _ =>
    ⟨⟨heeding.heeded, heeding.beginsFirst⟩, heeding.quiet⟩⟩

/-! ## Marks -/

/-- Noting a mark and then going on. -/
theorem traced_note {inner outer : Rule} {post : α → Prop} {mark : Event} {state : State}
    {events : List Event} (isMark : mark.isMark = true)
    (traced : Traced stopsAt inner post (state.note mark) events
      (part.outcome (state.note mark)))
    (lifted : ∀ final, outer state (mark :: events) final) :
    Traced stopsAt outer post state (mark :: events)
      ((modify (State.note mark) >>= fun _ => part).outcome state) := by
  have silent : mark.asksStop stopsAt state.journal = false := by
    cases mark with
    | began | started => rfl
    | printed | logged => contradiction
  rw [Run.outcome_bind, Run.outcome_modify, Run.proceed]
  refine ⟨?_, fun finished => ?_, lifted _, traced.post⟩
  · rw [traced.journal, List.reverse_cons, List.append_assoc]
    rfl
  · rw [traced.stops finished, requested, silent, Bool.false_or]
    rfl

theorem heeded_note {mark : Event} {earlier events : List Event} (isMark : mark.isMark = true)
    (heeded : Heeded stopsAt (mark :: earlier) events) :
    Heeded stopsAt earlier (mark :: events) := by
  cases mark with
  | began | started => exact ⟨fun asked => by contradiction, heeded⟩
  | printed | logged => contradiction

/-- A line that begins is orderly if its command begins no line or loses the request. -/
theorem Contains.orderly (contains : Contains stopsAt part) (line : String) :
    Obeys stopsAt (.orderly stopsAt) (fun _ => True)
      (modify (State.note (.began line)) >>= fun _ => part) := by
  intro state
  rcases contains (state.note (.began line)) with ⟨events, traced⟩
  refine ⟨.began line :: events, traced_note rfl traced fun _ framed => ⟨?_, ?_⟩⟩
  · exact heeded_note rfl (traced.rule framed).heeded
  · intro command rest shape
    cases shape

theorem contains_started {command : Command} (heeds : Heeds stopsAt part)
    (plain : command.runsLines = false → Plain stopsAt part) :
    Contains stopsAt (modify (State.note (.started command)) >>= fun _ => part) := by
  intro state
  cases runs : command.runsLines with
  | false =>
      rcases plain runs (state.note (.started command)) with ⟨events, traced⟩
      have quiet : Quiet (.started command :: events) := by
        intro line member
        rcases List.mem_cons.mp member with equal | member
        · cases equal
        · exact quiet_of_marks traced.rule line member
      exact ⟨.started command :: events, traced_note rfl traced fun _ _ =>
        ⟨heeded_of_quiet quiet, fun _ => quiet⟩⟩
  | true =>
      rcases heeds (state.note (.started command)) with ⟨events, traced⟩
      refine ⟨.started command :: events, traced_note rfl traced fun _ framed => ⟨?_, ?_⟩⟩
      · exact heeded_note rfl (traced.rule framed).heeded
      · intro heard
        have beginsFirst := (traced.rule framed).beginsFirst
        have shape : marks (.started command :: events) = .started command :: marks events := rfl
        rw [losesRequest, shape] at heard
        rw [quiet_iff_marks, shape]
        cases others : marks events with
        | nil => simp
        | cons mark rest =>
            have isMark : mark.isMark = true := isMark_of_mem_marks (others ▸ List.mem_cons_self)
            rw [others] at heard
            cases mark with
            | began line => exact absurd runs (Bool.eq_false_iff.mp heard)
            | started other => exact absurd others (beginsFirst other rest)
            | printed | logged => contradiction

end Runbook
