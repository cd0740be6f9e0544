import Mathlib.Data.List.Basic
import Mathlib.Logic.Function.Basic
import Runbook.Proofs.Filter.Passing
import Runbook.Proofs.Run.Commands
import Runbook.Proofs.Run.Heeding

/-! # Lines of two streams

The lines that a program writes to its two streams are taken in any order, each as a whole.
What is printed for a line, and whether it can be handled, does not depend on the lines that
were taken before it, so the order in which the streams are served shows in nothing but the
order in which their lines are printed.
-/

namespace Runbook

open Files (FileSystem)
open Runbook.Filter (Raises survivor?)

/-! ## Lines and what is printed of them -/

/-- The lines of one stream, in order. -/
def linesOf (stdout : Bool) (calls : List (Bool × String)) : List String :=
  calls.filterMap fun call => if call.1 = stdout then some call.2 else none

/-- The lines that are printed at events. -/
def printed (events : List Event) : List (Bool × String) :=
  events.filterMap fun
    | .printed stdout text => some (stdout, text)
    | _ => none

/-- What is printed for a line of a stream. -/
def Filter.shown? (files : FileSystem) (filters : List Filter) (stdout : Bool) (line : String) :
    Option String :=
  if Raises files stdout filters line then none else survivor? stdout filters line

theorem linesOf_cons (stdout : Bool) (call : Bool × String) (calls : List (Bool × String)) :
    linesOf stdout (call :: calls) =
      if call.1 = stdout then call.2 :: linesOf stdout calls else linesOf stdout calls := by
  unfold linesOf
  rw [List.filterMap_cons]
  split <;> simp_all

/-- The lines of a stream are what has become of this stream's lines. -/
theorem linesOf_filterMap (stdout : Bool) (becomes : Bool → String → Option String)
    (calls : List (Bool × String)) :
    linesOf stdout (calls.filterMap fun call => (becomes call.1 call.2).map (call.1, ·)) =
      (linesOf stdout calls).filterMap (becomes stdout) := by
  unfold linesOf
  rw [List.filterMap_filterMap, List.filterMap_filterMap]
  congr 1
  funext call
  by_cases same : call.1 = stdout
  · subst same
    cases became : becomes call.1 call.2 <;> simp [became]
  · cases becomes call.1 call.2 <;> simp [same]

theorem countP_linesOf (holds : Bool → String → Bool) (calls : List (Bool × String)) :
    calls.countP (fun call => holds call.1 call.2) =
      (linesOf true calls).countP (holds true) + (linesOf false calls).countP (holds false) := by
  induction calls with
  | nil => rfl
  | cons call rest induction =>
      rcases call with ⟨_ | _, line⟩
      · simp only [List.countP_cons, linesOf_cons, induction, Bool.false_eq_true, ↓reduceIte]
        omega
      · simp only [List.countP_cons, linesOf_cons, induction, reduceCtorEq, ↓reduceIte]
        omega

namespace Supervision

/-! ## Pumps -/

/-- Two streams with the lines that are still to be read from them, and what is kept from
line to line. -/
structure Pumps where
  unread : Bool → List String
  filters : List Filter
  failures : List Fault
  state : State

variable {surroundings : Surroundings} {program : String}

/-- One pump takes the next line of its stream, handles it, and notes if that failed. -/
inductive Step (surroundings : Surroundings) (program : String) :
    Pumps → Bool × String → Pumps → Prop
  | take {pumps : Pumps} {stdout : Bool} {line : String} {rest : List String}
      {filters : List Filter} {failure : Option Fault} {failures : List Fault}
      {middle after : State} (next : pumps.unread stdout = line :: rest)
      (handled : (Perform.filterLine surroundings pumps.filters stdout line).outcome pumps.state =
        (some (.ok (filters, failure)), middle))
      (noted : (noteFailure program pumps.failures failure).outcome middle =
        (some (.ok failures), after)) :
      Step surroundings program pumps (stdout, line)
        ⟨Function.update pumps.unread stdout rest, filters, failures, after⟩

/-- The pumps take lines in turn, in some order. -/
inductive Steps (surroundings : Surroundings) (program : String) :
    Pumps → List (Bool × String) → Pumps → Prop
  | rest {pumps : Pumps} : Steps surroundings program pumps [] pumps
  | next {pumps middle finish : Pumps} {call : Bool × String} {calls : List (Bool × String)}
      (step : Step surroundings program pumps call middle)
      (steps : Steps surroundings program middle calls finish) :
      Steps surroundings program pumps (call :: calls) finish

/-- What comes of a line that has been handled. -/
structure Handled (filters : List Filter) (stdout : Bool) (line : String) (state : State)
    (kept : List Filter) (failure : Option Fault) (after : State) : Prop where
  begun : kept.map Filter.begun = filters.map Filter.begun
  alike : state.files.Alike after.files
  failure : failure.isSome = decide (Raises state.files stdout filters line)
  events : ∃ events, after.journal = events.reverse ++ state.journal ∧
    printed events = ((Filter.shown? state.files filters stdout line).map (stdout, ·)).toList

/-- Handling a line always comes to an end. -/
theorem handled_filterLine (surroundings : Surroundings) (filters : List Filter) (stdout : Bool)
    (line : String) (state : State) : ∃ kept failure after,
      (Perform.filterLine surroundings filters stdout line).outcome state =
        (some (.ok (kept, failure)), after) ∧
      Handled filters stdout line state kept failure after := by
  have begun := Filter.begun_passAll state.files line stdout filters
  have alike := Filter.alike_passAll state.files line stdout filters
  have outcome := Filter.outcome_passAll state.files line stdout filters
  simp only [Perform.filterLine, Run.outcome_bind, Run.outcome_get, Run.proceed,
    Run.outcome_setFiles]
  generalize Filter.passAll state.files line stdout filters = passed at begun alike outcome ⊢
  by_cases raises : Raises state.files stdout filters line
  · rcases outcome.1 raises with ⟨fault, failed⟩
    simp only [failed]
    refine ⟨_, _, _, rfl, begun, alike, by simp [raises], [], rfl, ?_⟩
    simp [printed, Filter.shown?, raises]
  · have passes := outcome.2 raises
    cases survived : survivor? stdout filters line with
    | none =>
        simp only [passes, survived]
        refine ⟨_, _, _, rfl, begun, alike, by simp [raises], [], rfl, ?_⟩
        simp [printed, Filter.shown?, survived]
    | some text =>
        simp only [passes, survived]
        refine ⟨_, _, _, rfl, begun, ?_, by simp [raises], [.printed stdout text], ?_, ?_⟩
        · dsimp only
          split
          · exact alike
          · exact alike
        · dsimp only
          split
          · rfl
          · rfl
        · simp [printed, Filter.shown?, survived, raises]

/-- A failure is noted behind those that came before. Only a log may tell of it. -/
theorem outcome_noteFailure (program : String) (failures : List Fault) (failure : Option Fault)
    (state : State) : ∃ after,
      (noteFailure program failures failure).outcome state =
        (some (.ok (failures ++ failure.toList)), after) ∧
      after.files = state.files ∧
      ∃ events, after.journal = events.reverse ++ state.journal ∧ printed events = [] := by
  cases failure with
  | none => exact ⟨state, by simp [noteFailure], rfl, [], rfl, rfl⟩
  | some fault =>
      by_cases first : failures.isEmpty
      · have noted : (noteFailure program failures (some fault)).outcome state =
            (some (.ok (failures ++ [fault])), state.note (.logged
              ⟨.error, s!"Failed to handle output of {program}: {fault.message}"⟩)) := by
          simp only [noteFailure, first, ↓reduceIte, Run.outcome_bind, Run.outcome_record,
            Run.proceed, Run.outcome_pure]
        exact ⟨_, noted, rfl, [_], rfl, rfl⟩
      · exact ⟨state, by simp [noteFailure, first], rfl, [], rfl, rfl⟩

/-! ## What the pumps have done -/

theorem shown?_congr {files after : FileSystem} {filters kept : List Filter}
    (alike : files.Alike after) (same : kept.map Filter.begun = filters.map Filter.begun) :
    Filter.shown? after kept = Filter.shown? files filters := by
  funext stdout line
  simp only [Filter.shown?, Filter.raises_congr alike same, Filter.survivor?_congr same]

/-- What the pumps have done by taking lines. -/
structure Progress (pumps : Pumps) (calls : List (Bool × String)) (after : Pumps) : Prop where
  unread : ∀ stdout, pumps.unread stdout = linesOf stdout calls ++ after.unread stdout
  begun : after.filters.map Filter.begun = pumps.filters.map Filter.begun
  alike : pumps.state.files.Alike after.state.files
  failures : after.failures.length = pumps.failures.length +
    calls.countP fun call => Raises pumps.state.files call.1 pumps.filters call.2
  events : ∃ events, after.state.journal = events.reverse ++ pumps.state.journal ∧
    printed events = calls.filterMap fun call =>
      (Filter.shown? pumps.state.files pumps.filters call.1 call.2).map (call.1, ·)

variable {pumps middle finish : Pumps} {call : Bool × String} {calls : List (Bool × String)}

theorem progress_of_step (step : Step surroundings program pumps call finish) :
    Progress pumps [call] finish := by
  cases step with
  | @take stdout line rest filters failure failures middle after next handled noted =>
      rcases handled_filterLine surroundings pumps.filters stdout line pumps.state with
        ⟨_, _, _, same, kept⟩
      cases handled.symm.trans same
      rcases outcome_noteFailure program pumps.failures failure middle with
        ⟨_, same, files, logs, logged, silent⟩
      cases noted.symm.trans same
      rcases kept.events with ⟨events, journal, shown⟩
      refine ⟨fun other => ?_, kept.begun, files ▸ kept.alike, ?_, events ++ logs, ?_, ?_⟩
      · rw [linesOf_cons]
        by_cases same : stdout = other
        · subst same
          simp [next, linesOf]
        · simp [same, linesOf, Function.update_of_ne (Ne.symm same)]
      · rw [List.countP_singleton, ← kept.failure, List.length_append]
        cases failure <;> rfl
      · rw [logged, journal]
        simp
      · rw [printed, List.filterMap_append, ← printed, shown, ← printed, silent]
        simp only [List.append_nil, List.filterMap_cons, List.filterMap_nil]
        cases Filter.shown? pumps.state.files pumps.filters stdout line <;> rfl

theorem Progress.cons (first : Progress pumps [call] middle) (others : Progress middle calls finish) :
    Progress pumps (call :: calls) finish := by
  have shown := shown?_congr first.alike first.begun
  refine ⟨fun stdout => ?_, others.begun.trans first.begun, first.alike.trans others.alike, ?_, ?_⟩
  · rw [first.unread, others.unread, linesOf_cons, linesOf_cons]
    split
    · rfl
    · rfl
  · rw [others.failures, first.failures]
    simp only [Filter.raises_congr first.alike first.begun, List.countP_cons, List.countP_nil]
    omega
  · rcases first.events with ⟨before, journal, printedFirst⟩
    rcases others.events with ⟨after, later, printedThen⟩
    refine ⟨before ++ after, ?_, ?_⟩
    · rw [later, journal]
      simp
    · rw [printed, List.filterMap_append, ← printed, ← printed, printedFirst, printedThen, shown,
        ← List.filterMap_append]
      rfl

theorem progress_of_steps (steps : Steps surroundings program pumps calls finish) :
    Progress pumps calls finish := by
  induction steps with
  | rest => exact ⟨fun _ => rfl, rfl, .refl _, rfl, [], rfl, rfl⟩
  | next step _ induction => exact (progress_of_step step).cons induction

section Done

variable {unread : Bool → List String} {filters : List Filter} {state : State}

/-- Pumps that are through have handled each line once. -/
theorem linesOf_of_steps (steps : Steps surroundings program pumps calls finish)
    (done : ∀ stdout, finish.unread stdout = []) (stdout : Bool) :
    linesOf stdout calls = pumps.unread stdout := by
  rw [(progress_of_steps steps).unread, done, List.append_nil]

/-- Each line that cannot be handled is one failure. -/
theorem length_failures_of_steps
    (steps : Steps surroundings program ⟨unread, filters, [], state⟩ calls finish)
    (done : ∀ stdout, finish.unread stdout = []) :
    finish.failures.length = (unread true).countP (Raises state.files true filters) +
      (unread false).countP (Raises state.files false filters) := by
  have order (stdout : Bool) : linesOf stdout calls = unread stdout :=
    linesOf_of_steps steps done stdout
  rw [← order, ← order,
    ← countP_linesOf fun stdout line => decide (Raises state.files stdout filters line)]
  simpa using (progress_of_steps steps).failures

theorem failures_eq_nil_iff
    (steps : Steps surroundings program ⟨unread, filters, [], state⟩ calls finish)
    (done : ∀ stdout, finish.unread stdout = []) :
    finish.failures = [] ↔
      ∀ stdout, ∀ line ∈ unread stdout, ¬Raises state.files stdout filters line := by
  rw [← List.length_eq_zero_iff, length_failures_of_steps steps done, Nat.add_eq_zero_iff,
    List.countP_eq_zero, List.countP_eq_zero, Bool.forall_bool, and_comm]
  simp

/-- Each stream shows what becomes of its own lines. -/
theorem printed_of_steps (steps : Steps surroundings program pumps calls finish)
    (done : ∀ stdout, finish.unread stdout = []) :
    ∃ events, finish.state.journal = events.reverse ++ pumps.state.journal ∧
      ∀ stdout, linesOf stdout (printed events) = (pumps.unread stdout).filterMap
        (Filter.shown? pumps.state.files pumps.filters stdout) := by
  rcases (progress_of_steps steps).events with ⟨events, journal, shown⟩
  refine ⟨events, journal, fun stdout => ?_⟩
  rw [shown, linesOf_filterMap, linesOf_of_steps steps done]

end Done

/-! ## Every order of the lines -/

theorem exists_step {stdout : Bool} {line : String} {rest : List String}
    (next : pumps.unread stdout = line :: rest) : ∃ after,
      Step surroundings program pumps (stdout, line) after ∧
        after.unread = Function.update pumps.unread stdout rest := by
  rcases handled_filterLine surroundings pumps.filters stdout line pumps.state with
    ⟨kept, failure, middle, handled, -⟩
  rcases outcome_noteFailure program pumps.failures failure middle with ⟨after, noted, -⟩
  exact ⟨_, .take next handled noted, rfl⟩

theorem unread_of_cons {unread : Bool → List String}
    (order : ∀ stdout, linesOf stdout (call :: calls) = unread stdout) :
    unread call.1 = call.2 :: linesOf call.1 calls ∧
      ∀ stdout, linesOf stdout calls =
        Function.update unread call.1 (linesOf call.1 calls) stdout := by
  simp only [linesOf_cons] at order
  refine ⟨by rw [← order, if_pos rfl], fun stdout => ?_⟩
  by_cases same : stdout = call.1
  · subst same
    rw [Function.update_self]
  · rw [Function.update_of_ne same, ← order, if_neg (Ne.symm same)]

/-- The pumps can take the lines in every order that keeps each stream's own order. -/
theorem exists_steps (order : ∀ stdout, linesOf stdout calls = pumps.unread stdout) :
    ∃ finish, Steps surroundings program pumps calls finish ∧
      ∀ stdout, finish.unread stdout = [] := by
  induction calls generalizing pumps with
  | nil => exact ⟨pumps, .rest, fun stdout => (order stdout).symm⟩
  | cons call calls induction =>
      rcases unread_of_cons order with ⟨next, others⟩
      rcases exists_step next with ⟨middle, step, unread⟩
      rcases induction fun stdout => (others stdout).trans (congrFun unread stdout).symm with
        ⟨finish, steps, done⟩
      exact ⟨finish, .next step steps, done⟩

/-! ## Programs -/

/-- The lines that a program writes, in the order in which they are handled. -/
def callsOf (actions : List Host.Action) : List (Bool × String) :=
  actions.filterMap fun
    | .line stdout text => some (stdout, text)
    | .pause _ _ => none

/-- What has been asked to stop stays so. -/
theorem not_isStopped_of_elementary {α : Type} {post : α → Prop} {part : Run α} {state final : State}
    {result : Except Fault α} (elementary : Elementary surroundings post part)
    (ended : part.outcome state = (some result, final)) (free : final.isStopped = false) :
    state.isStopped = false := by
  rcases elementary.calm state with ⟨events, traced⟩
  have stops := traced.stops (by simp [ended])
  rw [ended] at stops
  by_contra asked
  have asked : state.isStopped = true := (Bool.not_eq_false _).mp asked
  have framed : state.stops ≠ [] := by
    intro unframed
    simp [State.isStopped, unframed] at asked
  exact absurd (free.symm.trans (isStopped_raised framed stops (.inr asked))) Bool.false_ne_true

/-- Following a program comes to an end. Unless it was asked to stop, the pumps have taken
all lines in the order in which the program has written them. -/
theorem exists_outcome_follow (surroundings : Surroundings) (program : String)
    (activity : Host.Activity) (kept : List Filter) (patience : Double) (failures : List Fault)
    (actions : List Host.Action) (unread : Bool → List String)
    (order : ∀ stdout, linesOf stdout (callsOf actions) = unread stdout) (state : State) :
    ∃ outcome final,
      (follow program (Perform.filterLine surroundings) activity kept patience failures
        actions).outcome state = (some (.ok outcome), final) ∧
      (final.isStopped = false → ∃ finish,
        Steps surroundings program ⟨unread, kept, failures, state⟩ (callsOf actions) finish ∧
          outcome = ⟨activity.ending.code, finish.failures⟩) := by
  fun_induction follow program (Perform.filterLine surroundings) activity kept patience failures
    actions generalizing state unread with
  | case1 kept patience failures => exact ⟨_, state, rfl, fun _ => ⟨_, .rest, rfl⟩⟩
  | case2 kept patience failures stdout text rest induction =>
      rcases unread_of_cons order with ⟨next, others⟩
      rcases handled_filterLine surroundings kept stdout text state with
        ⟨filters, failure, middle, handled, -⟩
      rcases outcome_noteFailure program failures failure middle with ⟨after, noted, -⟩
      rcases induction filters (failures ++ failure.toList) _ others after with
        ⟨outcome, final, ended, steps⟩
      refine ⟨outcome, final, ?_, fun free => ?_⟩
      · simp only [Run.outcome_bind, handled, Run.proceed, noted, ended]
      · rcases steps free with ⟨finish, steps, same⟩
        exact ⟨finish, .next (.take next handled noted) steps, same⟩
  | case3 kept patience failures seconds heeds rest goesOn waits =>
      simp only [Run.outcome_bind, Run.outcome_isStopped, Run.proceed]
      cases asked : state.isStopped with
      | false =>
          simp only [Bool.not_false, ↓reduceIte]
          exact goesOn unread order state
      | true =>
          -- Whatever happens from here on, the stop flag stays set.
          simp only [Bool.not_true, Bool.false_eq_true, ↓reduceIte, Run.outcome_bind,
            Run.outcome_record, Run.proceed]
          split
          · exact ⟨_, _, rfl, fun free => absurd (free.symm.trans asked) Bool.false_ne_true⟩
          · split
            · exact ⟨_, _, rfl, fun free => absurd (free.symm.trans asked) Bool.false_ne_true⟩
            · rcases waits unread order
                (state.note (.logged ⟨.info, s!"Terminating process {activity.identity}"⟩)) with
                ⟨outcome, final, ended, -⟩
              refine ⟨outcome, final, ended, fun free => ?_⟩
              have before := not_isStopped_of_elementary
                (elementary_follow Perform.elementary_filterLine program activity rest kept
                  (patience - seconds) failures) ended free
              exact absurd (before.symm.trans asked) Bool.false_ne_true

section Run

variable {launch : Host.Launch} {activity : Host.Activity} {filters : List Filter}
  {unread : Bool → List String} {state : State}

theorem exists_outcome_run (launched : surroundings.launch state.files launch = .ok activity)
    (order : ∀ stdout, linesOf stdout (callsOf activity.actions) = unread stdout)
    (filters : List Filter) :
    ∃ outcome final,
      (run surroundings launch (Perform.filterLine surroundings) filters).outcome state =
        (some (.ok outcome), final) ∧
      (final.isStopped = false → ∃ begun finish, begun.files = activity.files ∧
        Steps surroundings launch.program ⟨unread, filters, [], begun⟩
          (callsOf activity.actions) finish ∧
        outcome = ⟨activity.ending.code, finish.failures⟩) := by
  have files (event : Event) : (state.note event).files = state.files := rfl
  have flag (event : Event) : (state.note event).isStopped = state.isStopped := rfl
  cases asked : state.isStopped with
  | true =>
      simp only [run, Run.outcome_bind, Run.outcome_record, Run.outcome_get, Run.proceed, files,
        launched, Run.ofExcept, Run.outcome_pure, Run.outcome_isStopped, flag, asked, ↓reduceIte]
      exact ⟨_, _, rfl, fun free => absurd (free.symm.trans asked) Bool.false_ne_true⟩
  | false =>
      simp only [run, Run.outcome_bind, Run.outcome_record, Run.outcome_get, Run.proceed, files,
        launched, Run.ofExcept, Run.outcome_pure, Run.outcome_isStopped, flag, asked,
        Bool.false_eq_true, ↓reduceIte, Run.outcome_setFiles]
      rcases exists_outcome_follow surroundings launch.program activity filters
        surroundings.killTimeout [] activity.actions unread order
        { state.note (.logged ⟨.debug, s!"Launching: {Text.quotedList launch.arguments}"⟩) with
          files := activity.files } with
        ⟨outcome, final, ended, steps⟩
      simp only [ended]
      refine ⟨_, _, rfl, fun free => ?_⟩
      rcases steps free with ⟨finish, steps, same⟩
      exact ⟨_, finish, rfl, steps, same⟩

end Run

end Supervision

namespace Perform

open Supervision (Pumps Steps callsOf)

variable {surroundings : Surroundings} {given : Given} {profile : Profile}
  {activity : Host.Activity} {unread : Bool → List String} {state : State}

theorem endingOf_eq_done_iff {code : Int} {failures : List Fault} :
    endingOf profile false ⟨code, failures⟩ = .done ↔ code = 0 ∧ failures = [] := by
  cases failures with
  | nil =>
      by_cases succeeded : code = 0 <;> simp [endingOf, succeeded]
  | cons fault rest => simp [endingOf]

/-- Running a program comes to an end, in which the pumps have taken all of its lines unless
it was asked to stop. -/
theorem exists_outcome_run (chosen : given.profile = some profile)
    (launched : surroundings.launch state.files
      (launchOf surroundings profile given.arguments) = .ok activity)
    (order : ∀ stdout, linesOf stdout (callsOf activity.actions) = unread stdout) :
    ∃ ending final, (run surroundings given).outcome state = (some (.ok ending), final) ∧
      (final.isStopped = false → ∃ program begun finish, begun.files = activity.files ∧
        Steps surroundings program ⟨unread, given.filters, [], begun⟩ (callsOf activity.actions)
          finish ∧
        ending = endingOf profile false ⟨activity.ending.code, finish.failures⟩) := by
  rcases Supervision.exists_outcome_run launched order given.filters with
    ⟨outcome, final, ended, followed⟩
  refine ⟨endingOf profile final.isStopped outcome, final, ?_, fun free => ?_⟩
  · simp only [run, chosen, Run.outcome_bind, Run.outcome_attempt, ended, Option.map_some,
      Run.proceed, Run.outcome_isStopped, Run.outcome_pure]
  · rcases followed free with ⟨begun, finish, files, steps, rfl⟩
    exact ⟨_, begun, finish, files, steps, by rw [free]⟩

/-- The lines of two streams can be taken in every order. Whatever the order, each line is
handled once, each stream shows what becomes of its own lines, and each line that cannot be
handled is one failure. The command that runs a program takes its lines in this way, and
unless it is asked to stop it succeeds if the program does and every line could be handled. -/
theorem pumps_handle_every_line (surroundings : Surroundings) (program : String) (given : Given)
    (unread : Bool → List String) (state : State) :
    let start : Pumps := ⟨unread, given.filters, [], state⟩
    (∀ calls, (∀ stdout, linesOf stdout calls = unread stdout) →
      ∃ finish, Steps surroundings program start calls finish ∧
        ∀ stdout, finish.unread stdout = []) ∧
    (∀ calls finish, Steps surroundings program start calls finish →
      (∀ stdout, finish.unread stdout = []) →
      (∀ stdout, linesOf stdout calls = unread stdout) ∧
      (∃ events, finish.state.journal = events.reverse ++ state.journal ∧
        ∀ stdout, linesOf stdout (printed events) =
          (unread stdout).filterMap (Filter.shown? state.files given.filters stdout)) ∧
      finish.failures.length = (unread true).countP (Raises state.files true given.filters) +
        (unread false).countP (Raises state.files false given.filters) ∧
      ∀ profile code, endingOf profile false ⟨code, finish.failures⟩ = .done ↔
        code = 0 ∧ ∀ stdout, ∀ line ∈ unread stdout,
          ¬Raises state.files stdout given.filters line) ∧
    ∀ profile activity, given.profile = some profile →
      surroundings.launch state.files (launchOf surroundings profile given.arguments) =
        .ok activity →
      (∀ stdout, linesOf stdout (callsOf activity.actions) = unread stdout) →
      ∃ ending final, (run surroundings given).outcome state = (some (.ok ending), final) ∧
        (final.isStopped = false → (ending = .done ↔ activity.ending.code = 0 ∧
          ∀ stdout, ∀ line ∈ unread stdout,
            ¬Raises activity.files stdout given.filters line)) := by
  refine ⟨fun calls order => Supervision.exists_steps order, fun calls finish steps done => ?_,
    fun profile activity chosen launched order => ?_⟩
  · refine ⟨Supervision.linesOf_of_steps steps done, Supervision.printed_of_steps steps done,
      Supervision.length_failures_of_steps steps done, fun profile code => ?_⟩
    rw [endingOf_eq_done_iff, Supervision.failures_eq_nil_iff steps done]
  · rcases exists_outcome_run chosen launched order with ⟨ending, final, ended, followed⟩
    refine ⟨ending, final, ended, fun free => ?_⟩
    rcases followed free with ⟨program, begun, finish, files, steps, rfl⟩
    have done (stdout : Bool) : finish.unread stdout = [] := by
      have through := (Supervision.progress_of_steps steps).unread stdout
      rwa [order, List.self_eq_append_right] at through
    rw [endingOf_eq_done_iff, Supervision.failures_eq_nil_iff steps done, files]

/-- A program that writes two lines to one stream and one line to the other. -/
def writingSurroundings : Surroundings where
  host := []
  limit := .passes 100
  profiles := .listed []
  characters := fun _ => none
  verbose := false
  killTimeout := .ofNat 5
  environment := []
  launch := fun files _ =>
    .ok ⟨1, [.line true "a", .line false "c", .line true "b"], .exited 0, files⟩
  stopsAt := fun _ => false

/-- The lines of one stream are copied to a file in a directory that does not exist. -/
def unwritableGiven : Given :=
  ⟨⟨[]⟩, [], some ⟨"e", "w", [], [], none⟩, [⟨.tee, true, false, .copy "missing/log" false⟩]⟩

def emptyState : State := .initial Variables.empty ⟨.directory .nil, []⟩

theorem pumps_handle_every_line_unwritable :
    let unread := fun stdout => if stdout then ["a", "b"] else ["c"]
    (∃ finish, Steps writingSurroundings "w" ⟨unread, unwritableGiven.filters, [], emptyState⟩
        [(true, "a"), (false, "c"), (true, "b")] finish ∧
      finish.failures.length = 2 ∧ ∃ events, finish.state.journal = events.reverse ∧
        linesOf true (printed events) = [] ∧ linesOf false (printed events) = ["c"]) ∧
    ∃ ending final, (run writingSurroundings unwritableGiven).outcome emptyState =
        (some (.ok ending), final) ∧ (final.isStopped = false → ending ≠ .done) := by
  intro unread
  rcases pumps_handle_every_line writingSurroundings "w" unwritableGiven unread emptyState with
    ⟨orders, takes, command⟩
  have order : ∀ stdout, linesOf stdout [(true, "a"), (false, "c"), (true, "b")] = unread stdout := by
    decide
  refine ⟨?_, ?_⟩
  · rcases orders _ order with ⟨finish, steps, done⟩
    rcases takes _ finish steps done with ⟨-, ⟨events, journal, shown⟩, failures, -⟩
    refine ⟨finish, steps, failures.trans (by decide +kernel), events, ?_, ?_, ?_⟩
    · simpa [emptyState, State.initial] using journal
    · exact (shown true).trans (by decide +kernel)
    · exact (shown false).trans (by decide +kernel)
  · rcases command _ _ rfl rfl order with ⟨ending, final, ended, means⟩
    refine ⟨ending, final, ended, fun free succeeded => ?_⟩
    have works := ((means free).mp succeeded).2 true "a" (by decide)
    revert works
    decide +kernel

end Perform

end Runbook
