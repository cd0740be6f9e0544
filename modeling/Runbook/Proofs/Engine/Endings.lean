import Runbook.Proofs.Engine.Understanding
import Runbook.Proofs.Run.Ending

/-! # How lines end

A line that is understood, and whose command succeeds, succeeds. It shows what its command
shows, and if lines are to be shown, the line itself before that.
-/

namespace Runbook

open Script (Instruction)

namespace Engine

/-! ## Lines that are shown -/

/-- What is shown of a line before its command is run. -/
def announcement (verbose : Bool) (line expanded : String) : List (Bool × String) :=
  if verbose then [(false, s!"[RAW] {line}"), (false, s!"[EXP] {expanded}")] else []

theorem announcement_eq (verbose : Bool) (line expanded : String) :
    announcement verbose line expanded =
      (if verbose then [(false, s!"[RAW] {line}")] else []) ++
        (if verbose then [(false, s!"[EXP] {expanded}")] else []) := by
  cases verbose <;> rfl

variable {run : Runner} {fuel : Nat} {surroundings : Surroundings} {verbose : Bool}
  {state : State} {line expanded : String}

theorem endsIn_echo (surroundings : Surroundings) (wanted : Bool) (text : String)
    (state : State) :
    EndsIn (echo surroundings wanted text) state (.ok ())
      (state.view.showing (if wanted then [(false, text)] else [])) := by
  cases wanted with
  | false =>
      rw [echo, if_neg (by decide), if_neg (by decide), View.showing_nil]
      exact .pure rfl
  | true => exact .print surroundings false text state

/-- A line begins, and is shown if lines are to be shown. -/
theorem endsIn_beginning {α : Type} {next : Run α} {ended : Except Fault α} {last : View}
    (rest : ∀ middle : State, middle.view =
        state.view.showing (if verbose then [(false, s!"[RAW] {line}")] else []) →
      EndsIn next middle ended last) :
    EndsIn (modify (State.note (.began line)) >>= fun _ =>
      echo surroundings verbose s!"[RAW] {line}" >>= fun _ => next) state ended last := by
  refine EndsIn.bind (.note rfl state) fun begun seen => ?_
  refine EndsIn.bind (endsIn_echo surroundings verbose _ begun) fun echoed told => ?_
  rw [seen] at told
  exact rest echoed told

theorem endsIn_resolve {tokens : List String} {resolution : Resolution}
    (split : Tokens.split expanded = .ok tokens)
    (resolved : (Resolution.ofTokens surroundings.characters surroundings.profiles state.files true
      tokens).outcome.1 = .ok resolution) :
    EndsIn (resolve surroundings expanded) state (.ok resolution) state.view := by
  rw [resolve, split]
  exact .get (.ofLogged resolved state)

theorem endsIn_understand {tokens : List String} {resolution : Resolution}
    (expands : state.bindings.expand surroundings.host surroundings.limit line = .ok expanded)
    (split : Tokens.split expanded = .ok tokens)
    (resolved : (Resolution.ofTokens surroundings.characters surroundings.profiles state.files true
      tokens).outcome.1 = .ok resolution) :
    EndsIn (understand surroundings verbose line) state (.ok (expanded, resolution))
      (state.view.showing (announcement verbose line expanded)) := by
  rw [understand]
  refine endsIn_beginning fun middle shown => .get ?_
  rw [show middle.bindings = state.bindings from congrArg View.bindings shown, expands]
  refine EndsIn.bind (endsIn_echo surroundings verbose _ middle) fun announced told => ?_
  rw [shown, View.showing_showing, ← announcement_eq] at told
  have kept : announced.files = state.files := congrArg View.files told
  refine EndsIn.bind (endsIn_resolve split (by rw [kept, resolved])) fun final same => ?_
  exact .pure (same.trans told)

/-- A command that does what it should succeeds in a frame of its own. -/
theorem endsIn_dispatch {setup : Setup} {block : Option (List Instruction)} {view : View}
    (executes : ∀ middle : State, middle.view = state.view →
      EndsIn (execute run fuel surroundings setup block) middle (.ok .done) view) :
    EndsIn (dispatch run fuel surroundings line setup block) state (.ok true) view := by
  apply EndsIn.inFrame
  apply EndsIn.bind (.note rfl _)
  intro started seen
  have ended : EndsIn (runSetup run fuel surroundings setup block) started (.ok true) view := by
    apply EndsIn.bind (executes started seen)
    intro middle shown
    exact .pure shown
  apply EndsIn.bind ended.attempt
  intro middle shown
  exact .pure shown

/-- A line succeeds if it is ready and its command does what it should. -/
theorem endsIn_runLine {tokens : List String} {setup : Setup} {view : View}
    (below : Option (List Instruction))
    (expands : state.bindings.expand surroundings.host surroundings.limit line = .ok expanded)
    (split : Tokens.split expanded = .ok tokens)
    (resolved : (Resolution.ofTokens surroundings.characters surroundings.profiles state.files true
      tokens).outcome.1 = .ok (.ready setup))
    (executes : ∀ middle : State,
      middle.view = state.view.showing (announcement verbose line expanded) →
      EndsIn (execute run fuel surroundings setup (claimed setup.command below)) middle
        (.ok .done) view) :
    EndsIn (runLine run fuel surroundings verbose line below) state
      (.ok ⟨true, (claimed setup.command below).isSome⟩) view := by
  rw [runLine_eq]
  apply EndsIn.bind (endsIn_understand expands split resolved)
  intro understood shown
  rw [carryOut]
  apply EndsIn.bind (endsIn_dispatch fun middle same => executes middle (same.trans shown))
  intro final seen
  exact .pure seen

end Engine

end Runbook
