import Runbook.Proofs.Engine.Endings
import Runbook.Proofs.Engine.Succession
import Runbook.Proofs.Engine.Unrolling
import Runbook.Proofs.Resolution.Failing

/-! # Faults that end a block

A line that asks for nothing that can be done fails, and one error tells why. The command of a
line may end in a fault, and then this fault is recorded and goes no further. Only what happens
before a command is run, and what is listed after the report of an unknown profile, can end the
whole block in a fault.
-/

namespace Runbook

open Script (Instruction)

/-! ## Parts without faults -/

/-- A part of a run that does not end in a fault. -/
def Faultless {α : Type} (part : Run α) : Prop :=
  ∀ ⦃state fault final⦄, part.outcome state ≠ (some (.error fault), final)

namespace Faultless

variable {α β : Type} {part : Run α} {next : α → Run β}

theorem pure (value : α) : Faultless (Pure.pure value) := by
  rintro state fault final ⟨⟩

theorem ofModify (change : State → State) : Faultless (modify change : Run Unit) := by
  rintro state fault final ⟨⟩

theorem bind (first : Faultless part) (rest : ∀ value, Faultless (next value)) :
    Faultless (part >>= next) := by
  intro state fault final ended
  rcases Run.outcome_bind_ended ended with ⟨value, middle, _, failed⟩ | ⟨fault, failed, _⟩
  · exact rest value failed
  · exact first failed

theorem attempt (part : Run α) : Faultless (Run.attempt part) := by
  intro state fault final ended
  rw [Run.outcome_attempt, Prod.mk.injEq, Option.map_eq_some_iff] at ended
  rcases ended with ⟨⟨result, _, ⟨⟩⟩, _⟩

theorem inFrame (faultless : Faultless part) (stopped : Bool) :
    Faultless (Run.inFrame stopped part) := by
  intro state fault final ended
  rw [Run.outcome_inFrame] at ended
  have inside := @faultless { state with stops := stopped :: state.stops } fault
  generalize part.outcome _ = outcome at ended inside
  rcases outcome with ⟨_ | result, inner⟩
  · cases ended
  · cases ended
    exact inside rfl

end Faultless

/-- What can be seen after an error has been recorded. -/
def View.blaming (view : View) (message : String) : View :=
  { view with errors := view.errors ++ [message] }

namespace Engine

variable {run : Runner} {fuel : Nat} {surroundings : Surroundings} {verbose : Bool}
  {state : State} {line : String}

/-- A fault that ends a command is recorded. -/
theorem faultless_dispatch (run : Runner) (fuel : Nat) (surroundings : Surroundings)
    (line : String) (setup : Setup) (block : Option (List Instruction)) :
    Faultless (dispatch run fuel surroundings line setup block) := by
  refine .inFrame (.bind (.ofModify _) fun _ => .bind (.attempt _) fun result => ?_) false
  cases result with
  | ok succeeded => exact .pure succeeded
  | error fault =>
      exact .bind (.ofModify _) fun _ => .bind (.ofModify _) fun _ => .bind (.ofModify _)
        fun _ => .pure false

/-! ## What a line is understood as -/

/-- What an expanded line asks for, or the fault that finding this out ends in. -/
def resolved (surroundings : Surroundings) (files : Files.FileSystem) (expanded : String) :
    Except Fault Resolution :=
  match Tokens.split expanded with
  | .error fault => .ok (.refused (.ofTokens expanded fault))
  | .ok tokens =>
      (Resolution.ofTokens surroundings.characters surroundings.profiles files true
        tokens).outcome.1

/-- What a line is expanded to and asks for, or the fault that finding this out ends in. -/
def understood (surroundings : Surroundings) (state : State) (line : String) :
    Except Fault (String × Resolution) :=
  match state.bindings.expand surroundings.host surroundings.limit line with
  | .error (.incomparableLimit type) =>
      .error (.type (Variables.ExpansionError.incomparableLimit type).message)
  | .error error => .ok (line, .refused (.ofExpansion error))
  | .ok expanded => (resolved surroundings state.files expanded).map (expanded, ·)

theorem endsIn_resolved (surroundings : Surroundings) (state : State) (expanded : String) :
    EndsIn (resolve surroundings expanded) state (resolved surroundings state.files expanded)
      state.view := by
  unfold resolve resolved
  cases Tokens.split expanded with
  | error fault => exact .pure rfl
  | ok tokens => exact .get (.ofLogged rfl state)

theorem endsIn_understood (surroundings : Surroundings) (verbose : Bool) (state : State)
    (line : String) :
    ∃ shown, EndsIn (understand surroundings verbose line) state
      (understood surroundings state line) (state.view.showing shown) := by
  unfold understand understood
  cases expands : state.bindings.expand surroundings.host surroundings.limit line with
  | error error =>
      refine ⟨if verbose then [(false, s!"[RAW] {line}")] else [],
        endsIn_beginning fun middle shown => .get ?_⟩
      rw [show middle.bindings = state.bindings from congrArg View.bindings shown, expands]
      cases error with
      | incomparableLimit type => exact endsIn_iff.mpr ⟨middle, rfl, shown⟩
      | tooDeep limit text => exact .pure shown
      | cyclic text => exact .pure shown
  | ok expanded =>
      refine ⟨announcement verbose line expanded, endsIn_beginning fun middle shown => .get ?_⟩
      rw [show middle.bindings = state.bindings from congrArg View.bindings shown, expands]
      refine EndsIn.bind (endsIn_echo surroundings verbose _ middle) fun announced told => ?_
      rw [shown, View.showing_showing, ← announcement_eq] at told
      have ends := endsIn_resolved surroundings announced expanded
      rw [told, show announced.files = state.files from congrArg View.files told] at ends
      dsimp only
      cases reached : resolved surroundings state.files expanded with
      | error fault =>
          rw [reached] at ends
          exact ends.bind_error
      | ok resolution =>
          rw [reached] at ends
          exact ends.bind fun final same => .pure same

/-! ## Lines that are refused -/

/-- What is listed after the report of an error, or the fault that finding this out ends in. -/
def alternatives (surroundings : Surroundings) (inScript : Bool) (files : Files.FileSystem) :
    ScriptError → Except Fault (List String)
  | .unknownCommand _ =>
      .ok ("Known commands:" :: (Command.knownNames inScript).map ("  " ++ ·))
  | .unknownProfile _ =>
      (surroundings.profiles.list files).outcome.1.map fun profiles =>
        let names :=
          if profiles.isEmpty then "<none>" else ", ".intercalate (profiles.map (·.name))
        [s!"Available environments: {names}"]
  | .missingProfile name =>
      .ok ((Command.find? inScript name).toList.map (·.helpScreen false true))
  | _ => .ok []

theorem endsIn_remarkAll (surroundings : Surroundings) (texts : List String) (state : State) :
    EndsIn (surroundings.remarkAll texts) state (.ok ())
      (state.view.showing (texts.map (false, ·))) := by
  induction texts generalizing state with
  | nil => exact .pure (View.showing_nil _).symm
  | cons text texts induction =>
      refine EndsIn.bind (.print surroundings false text state) fun middle shown => ?_
      have ends := induction middle
      rwa [shown, View.showing_showing] at ends

theorem endsIn_showAlternatives {inScript : Bool} {error : ScriptError} {texts : List String}
    (known : alternatives surroundings inScript state.files error = .ok texts) :
    EndsIn (showAlternatives surroundings inScript error) state (.ok ())
      (state.view.showing (texts.map (false, ·))) := by
  have nothing : EndsIn (Pure.pure ()) state (.ok ()) (state.view.showing []) :=
    .pure (View.showing_nil _).symm
  cases error with
  | unknownCommand name =>
      cases known
      exact endsIn_remarkAll surroundings _ state
  | unknownProfile name =>
      rw [alternatives] at known
      cases found : (surroundings.profiles.list state.files).outcome.1 with
      | error fault =>
          rw [found] at known
          cases known
      | ok profiles =>
          rw [found] at known
          cases known
          refine .get (EndsIn.bind (.ofLogged found state) fun middle same => ?_)
          rw [← same]
          exact .print surroundings false _ middle
  | missingProfile name =>
      cases known
      rw [showAlternatives]
      cases Command.find? inScript name with
      | none => exact nothing
      | some command => exact .print surroundings false _ state
  | _ =>
      cases known
      exact nothing

theorem endsIn_showAlternatives_of_error {inScript : Bool} {error : ScriptError} {fault : Fault}
    (failed : alternatives surroundings inScript state.files error = .error fault) :
    EndsIn (showAlternatives surroundings inScript error) state (.error fault) state.view := by
  cases error with
  | unknownProfile name =>
      rw [alternatives] at failed
      cases found : (surroundings.profiles.list state.files).outcome.1 with
      | error other =>
          rw [found] at failed
          cases failed
          exact .get (EndsIn.bind_error (.ofLogged found state))
      | ok profiles =>
          rw [found] at failed
          cases failed
  | _ => cases failed

theorem endsIn_report (surroundings : Surroundings) (message : String) (state : State) :
    EndsIn (report surroundings message) state (.ok ())
      ((state.view.blaming message).showing [(false, message)]) := by
  have recorded : EndsIn (Run.addError message) state (.ok ()) (state.view.blaming message) :=
    endsIn_iff.mpr ⟨_, rfl, rfl⟩
  refine recorded.bind fun middle same => ?_
  rw [← same]
  exact .print surroundings false _ middle

/-- An error is recorded and shown, and then its alternatives are. -/
theorem endsIn_refuse {inScript : Bool} {error : ScriptError} {texts : List String}
    (known : alternatives surroundings inScript state.files error = .ok texts) :
    EndsIn (refuse surroundings inScript error) state (.ok false)
      ((state.view.blaming error.message).showing
        ((error.message :: texts).map (false, ·))) := by
  refine (endsIn_report surroundings error.message state).bind fun middle same => ?_
  rw [← show middle.files = state.files from congrArg View.files same] at known
  have shows := endsIn_showAlternatives known
  rw [same, View.showing_showing] at shows
  exact shows.bind fun final seen => .pure seen

theorem endsIn_refuse_of_error {inScript : Bool} {error : ScriptError} {fault : Fault}
    (failed : alternatives surroundings inScript state.files error = .error fault) :
    EndsIn (refuse surroundings inScript error) state (.error fault)
      ((state.view.blaming error.message).showing [(false, error.message)]) := by
  refine (endsIn_report surroundings error.message state).bind fun middle same => ?_
  rw [← show middle.files = state.files from congrArg View.files same] at failed
  have ends := endsIn_showAlternatives_of_error failed
  rw [same] at ends
  exact ends.bind_error

/-! ## Lines that end in a fault -/

/-- How a line ends the block that it stands in with a fault. -/
inductive Escapes (surroundings : Surroundings) (state : State) (line : String) : Fault → Prop
  | limit {type : String}
      (incomparable : state.bindings.expand surroundings.host surroundings.limit line =
        .error (.incomparableLimit type)) :
      Escapes surroundings state line
        (.type (Variables.ExpansionError.incomparableLimit type).message)
  | resolution {expanded name : String} {behind : List String} {command : Command} {fault : Fault}
      (expands : state.bindings.expand surroundings.host surroundings.limit line = .ok expanded)
      (split : Tokens.split expanded = .ok (name :: behind))
      (known : Command.find? true name = some command)
      (upsets : Resolution.Upsets surroundings.characters surroundings.profiles state.files command
        behind fault) :
      Escapes surroundings state line fault
  | listing {expanded name : String} {tokens : List String} {fault : Fault}
      (expands : state.bindings.expand surroundings.host surroundings.limit line = .ok expanded)
      (split : Tokens.split expanded = .ok tokens)
      (unfound : (Resolution.ofTokens surroundings.characters surroundings.profiles state.files
        true tokens).outcome.1 = .ok (.refused (.unknownProfile name)))
      (failed : (surroundings.profiles.list state.files).outcome.1 = .error fault) :
      Escapes surroundings state line fault

/-- A line is not expanded, or not split into tokens, or it asks for what its tokens ask for. -/
theorem understood_cases (surroundings : Surroundings) (state : State) (line : String) :
    (∃ type, state.bindings.expand surroundings.host surroundings.limit line =
        .error (.incomparableLimit type) ∧
      understood surroundings state line =
        .error (.type (Variables.ExpansionError.incomparableLimit type).message)) ∨
      (∃ text error, understood surroundings state line = .ok (text, .refused error) ∧
        ∀ name, error ≠ .unknownProfile name) ∨
      ∃ expanded tokens,
        state.bindings.expand surroundings.host surroundings.limit line = .ok expanded ∧
          Tokens.split expanded = .ok tokens ∧
            understood surroundings state line =
              (Resolution.ofTokens surroundings.characters surroundings.profiles state.files true
                tokens).outcome.1.map (expanded, ·) := by
  unfold understood
  split
  · rename_i type incomparable
    exact .inl ⟨type, incomparable, rfl⟩
  · rename_i error _ _
    exact .inr (.inl ⟨line, .ofExpansion error, rfl, fun _ => ScriptError.noConfusion⟩)
  · rename_i expanded expands
    unfold resolved
    split
    · rename_i fault _
      exact .inr (.inl ⟨expanded, .ofTokens expanded fault, rfl, fun _ => ScriptError.noConfusion⟩)
    · rename_i tokens split
      exact .inr (.inr ⟨expanded, tokens, expands, split, rfl⟩)

theorem escapes_of_understood {fault : Fault}
    (failed : understood surroundings state line = .error fault) :
    Escapes surroundings state line fault := by
  rcases understood_cases surroundings state line with
    ⟨type, incomparable, reached⟩ | ⟨text, error, reached, _⟩ |
      ⟨expanded, tokens, expands, split, reached⟩
  · rw [reached] at failed
    cases failed
    exact .limit incomparable
  · rw [reached] at failed
    cases failed
  · rw [reached, Results.map_eq_error_iff] at failed
    rcases Resolution.ofTokens_eq_error_iff.mp failed with
      ⟨name, behind, command, rfl, known, upsets⟩
    exact .resolution expands split known upsets

theorem escapes_of_unlisted {text : String} {error : ScriptError} {fault : Fault}
    (refused : understood surroundings state line = .ok (text, .refused error))
    (failed : alternatives surroundings true state.files error = .error fault) :
    Escapes surroundings state line fault := by
  cases error with
  | unknownProfile name =>
      rw [alternatives, Results.map_eq_error_iff] at failed
      rcases understood_cases surroundings state line with
        ⟨type, _, reached⟩ | ⟨text, error, reached, other⟩ |
          ⟨expanded, tokens, expands, split, reached⟩
      · rw [reached] at refused
        cases refused
      · rw [reached] at refused
        cases refused
        exact absurd rfl (other name)
      · rw [reached, Results.map_eq_ok_iff] at refused
        rcases refused with ⟨resolution, unfound, same⟩
        cases same
        exact .listing expands split unfound failed
  | _ => cases failed

section Lines

variable (below : Option (List Instruction)) {fault : Fault}

theorem endsIn_runLine_of_error (failed : understood surroundings state line = .error fault) :
    ∃ view, EndsIn (runLine run fuel surroundings verbose line below) state (.error fault)
      view := by
  rcases endsIn_understood surroundings verbose state line with ⟨shown, ends⟩
  rw [failed] at ends
  rw [runLine_eq]
  exact ⟨_, ends.bind_error⟩

theorem endsIn_runLine_of_refused {text : String} {error : ScriptError} {texts : List String}
    (refused : understood surroundings state line = .ok (text, .refused error))
    (known : alternatives surroundings true state.files error = .ok texts) :
    ∃ shown, EndsIn (runLine run fuel surroundings verbose line below) state (.ok ⟨false, false⟩)
      ((state.view.blaming error.message).showing shown) := by
  rcases endsIn_understood surroundings verbose state line with ⟨shown, ends⟩
  rw [refused] at ends
  refine ⟨shown ++ (error.message :: texts).map (false, ·), ?_⟩
  rw [runLine_eq]
  refine ends.bind fun middle seen => ?_
  rw [← show middle.files = state.files from congrArg View.files seen] at known
  have blamed := endsIn_refuse known
  rw [seen, show (state.view.showing shown).blaming error.message =
    (state.view.blaming error.message).showing shown from rfl, View.showing_showing] at blamed
  exact blamed.bind fun final same => .pure same

theorem endsIn_runLine_of_unlisted {text : String} {error : ScriptError}
    (refused : understood surroundings state line = .ok (text, .refused error))
    (failed : alternatives surroundings true state.files error = .error fault) :
    ∃ view, EndsIn (runLine run fuel surroundings verbose line below) state (.error fault)
      view := by
  rcases endsIn_understood surroundings verbose state line with ⟨shown, ends⟩
  rw [refused] at ends
  rw [runLine_eq]
  refine ⟨((state.view.showing shown).blaming error.message).showing [(false, error.message)],
    ends.bind fun middle seen => ?_⟩
  rw [← show middle.files = state.files from congrArg View.files seen] at failed
  have blamed := endsIn_refuse_of_error failed
  rw [seen] at blamed
  exact blamed.bind_error

theorem faultless_carryOut {text : String} {resolution : Resolution}
    (accepted : ∀ error, resolution ≠ .refused error) :
    Faultless (carryOut run fuel surroundings below (text, resolution)) := by
  cases resolution with
  | refused error => exact absurd rfl (accepted error)
  | help command => exact .bind (.ofModify _) fun _ => .pure _
  | ready setup => exact .bind (faultless_dispatch ..) fun _ => .pure _

theorem Escapes.endsIn (escapes : Escapes surroundings state line fault) :
    ∃ view, EndsIn (runLine run fuel surroundings verbose line below) state (.error fault)
      view := by
  cases escapes with
  | limit incomparable =>
      exact endsIn_runLine_of_error below (by rw [understood, incomparable])
  | resolution expands split known upsets =>
      have failed := Resolution.ofTokens_eq_error_iff.mpr ⟨_, _, _, rfl, known, upsets⟩
      refine endsIn_runLine_of_error below ?_
      rw [understood, expands]
      simp only [resolved, split, failed, Except.map]
  | @listing expanded name _ _ expands split unfound failed =>
      have refused : understood surroundings state line =
          .ok (expanded, .refused (.unknownProfile name)) := by
        rw [understood, expands]
        simp only [resolved, split, unfound, Except.map]
      refine endsIn_runLine_of_unlisted below refused ?_
      rw [alternatives, failed, Except.map]

/-- A line ends in a fault exactly if what it asks for cannot be found out, or if what could be
asked for instead cannot. A fault of its command is not one of the line. -/
theorem runLine_fails_iff :
    (∃ view, EndsIn (runLine run fuel surroundings verbose line below) state (.error fault) view) ↔
      Escapes surroundings state line fault := by
  refine ⟨fun ⟨view, ended⟩ => ?_, fun escapes => escapes.endsIn below⟩
  cases found : understood surroundings state line with
  | error other =>
      rcases endsIn_runLine_of_error below found with ⟨_, ends⟩
      cases ended.result_unique ends
      exact escapes_of_understood found
  | ok asked =>
      rcases asked with ⟨text, resolution⟩
      by_cases accepted : ∀ error, resolution ≠ .refused error
      · rcases endsIn_understood surroundings verbose state line with ⟨shown, understands⟩
        rw [found] at understands
        rw [runLine_eq] at ended
        rcases endsIn_iff.mp ended with ⟨final, failed, _⟩
        rcases Run.outcome_bind_ended failed with
          ⟨asked, middle, reached, carried⟩ | ⟨other, reached, _⟩
        · cases ((endsIn_of_outcome reached).mp understands).1
          exact (faultless_carryOut below accepted carried).elim
        · cases ((endsIn_of_outcome reached).mp understands).1
      · simp only [not_forall, not_not] at accepted
        rcases accepted with ⟨error, rfl⟩
        cases known : alternatives surroundings true state.files error with
        | error other =>
            rcases endsIn_runLine_of_unlisted below found known with ⟨_, ends⟩
            cases ended.result_unique ends
            exact escapes_of_unlisted found known
        | ok texts =>
            rcases endsIn_runLine_of_refused below found known with ⟨_, ends⟩
            cases ended.result_unique ends

end Lines

/-! ## Blocks that end in a fault -/

/-- A block ends in a fault exactly if one of its lines does once those before it have
succeeded. -/
theorem runBlock_fails_iff (instructions : List Instruction) {fault : Fault} :
    (∃ view, EndsIn (runBlock (fuel + 1) surroundings verbose instructions) state (.error fault)
        view) ↔
      ∃ successes line rest middle,
        instructions = successes.flatMap Success.instructions ++ .line line :: rest ∧
          SucceedInTurn (runBlock fuel) fuel surroundings verbose state successes middle ∧
            middle.isStopped = false ∧ Escapes surroundings middle line fault := by
  constructor
  · rintro ⟨view, ended⟩
    rcases endsIn_iff.mp ended with ⟨final, failed, _⟩
    rcases (outcome_runBlock_iff instructions fun same => by cases same).mp failed with
      ⟨successes, left, middle, rfl, inTurn, ends⟩
    cases ends with
    | @faulty line rest _ _ unstopped faulty =>
        have escapes := (runLine_fails_iff _).mp ⟨_, endsIn_iff.mpr ⟨final, faulty, rfl⟩⟩
        exact ⟨successes, line, rest, middle, rfl, inTurn, unstopped, escapes⟩
  · rintro ⟨successes, line, rest, middle, rfl, inTurn, unstopped, escapes⟩
    rcases escapes.endsIn (blockAt rest) with ⟨view, ends⟩
    rcases endsIn_iff.mp ends with ⟨final, faulty, seen⟩
    refine ⟨view, endsIn_iff.mpr ⟨final, ?_, seen⟩⟩
    exact (outcome_runBlock_iff _ fun same => by cases same).mpr
      ⟨successes, _, middle, rfl, inTurn, .faulty unstopped faulty⟩

/-- Where no lookup of a profile fails, the tokens of a line bring its resolution to a fault
exactly if one of its filters does, by a path that is too long or leads into a closed directory, or
by a pattern with a number or a character code in it that is too large or with contrary flags. A
line that is refused fails, and one error is recorded. A block ends in a fault exactly if one of its
lines brings the resolution to a fault, once the lines before it have succeeded. -/
theorem refused_unless_upset (fuel : Nat) (surroundings : Surroundings) (verbose : Bool) :
    (∀ files inScript tokens fault,
      (∀ name ∈ tokens, ∃ found,
        (surroundings.profiles.resolve files name).outcome.1 = .ok found) →
      ((Resolution.ofTokens surroundings.characters surroundings.profiles files inScript
          tokens).outcome.1 = .error fault ↔
        ∃ name behind command taken profile options before run after filters,
          tokens = name :: behind ∧ Command.find? inScript name = some command ∧
            Resolution.helpOption ∉ Resolution.ownOptions behind ∧
              Resolution.Equips surroundings.profiles files command behind taken profile options ∧
                command.takesFilters = true ∧ Resolution.runs options = before ++ run :: after ∧
                  before.Forall₂ (Resolution.Configures surroundings.characters files) filters ∧
                    Filter.UpsetsBy surroundings.characters files run fault)) ∧
      (∀ characters files run fault, Filter.UpsetsBy characters files run fault →
        (∃ path problem, fault = .files (.at problem path) ∧ files.Blocked path problem ∧
            (problem = .nameTooLong ∨ problem = .denied)) ∨
          ∃ text error, fault = .pattern error ∧ Pattern.ofText characters text = .error error ∧
            Pattern.Excess text.toList error.fault) ∧
      (∀ state line expanded tokens error texts below,
        state.bindings.expand surroundings.host surroundings.limit line = .ok expanded →
        Tokens.split expanded = .ok tokens →
        (Resolution.ofTokens surroundings.characters surroundings.profiles state.files true
          tokens).outcome.1 = .ok (.refused error) →
        alternatives surroundings true state.files error = .ok texts →
        ∃ shown, EndsIn (runLine (runBlock fuel) fuel surroundings verbose line below) state
          (.ok ⟨false, false⟩) ((state.view.blaming error.message).showing shown)) ∧
      ∀ instructions state fault,
        (∃ view, EndsIn (runBlock (fuel + 1) surroundings verbose instructions) state
            (.error fault) view) ↔
          ∃ successes line rest middle,
            instructions = successes.flatMap Success.instructions ++ .line line :: rest ∧
              SucceedInTurn (runBlock fuel) fuel surroundings verbose state successes middle ∧
                middle.isStopped = false ∧ Escapes surroundings middle line fault := by
  refine ⟨?_, fun characters files run fault upsets => upsets.excess, ?_,
    fun instructions state fault => runBlock_fails_iff instructions⟩
  · intro files inScript tokens fault looksUp
    rw [Resolution.ofTokens_eq_error_iff]
    constructor
    · rintro ⟨name, behind, command, rfl, known, upsets⟩
      cases upsets with
      | profile unasked needs proper failed =>
          rcases looksUp _ (List.mem_cons_of_mem _ List.mem_cons_self) with ⟨found, returned⟩
          rw [failed] at returned
          cases returned
      | filter unasked equips supported shape earlier failed =>
          exact ⟨name, behind, command, _, _, _, _, _, _, _, rfl, known, unasked, equips, supported,
            shape, earlier, Filter.configure_eq_error_iff.mp failed⟩
    · rintro ⟨name, behind, command, taken, profile, options, before, run, after, filters, rfl,
        known, unasked, equips, supported, shape, earlier, upsets⟩
      exact ⟨name, behind, command, rfl, known, .filter unasked equips supported shape earlier
        (Filter.configure_eq_error_iff.mpr upsets)⟩
  · intro state line expanded tokens error texts below expands split refused known
    have found : understood surroundings state line = .ok (expanded, .refused error) := by
      rw [understood, expands]
      simp only [resolved, split, refused, Except.map]
    exact endsIn_runLine_of_refused below found known

/-! ### A pattern that is too large, and a filter that is not known -/

def overflowingTokens : List String := ["run", "e", "|", "grep", "--regexp", "a\x7b4294967296\x7d"]

def overflow : Pattern.Error :=
  ⟨.tooManyRepetitions, none, "a\x7b4294967296\x7d".toList⟩

theorem refused_unless_upset_overflowing :
    (Resolution.ofTokens profileSurroundings.characters profileSurroundings.profiles
        listState.files true overflowingTokens).outcome.1 = .error (.pattern overflow) ∧
      (∃ shown, EndsIn (runLine (runBlock 0) 0 profileSurroundings false "run e | sort" none)
        listState (.ok ⟨false, false⟩) ((listState.view.blaming
          "Unknown filter: sort (available: grep, replace, tee)").showing shown)) ∧
      ∃ view, EndsIn (runBlock 1 profileSurroundings false
        [.line "run e | grep --regexp a\x7b4294967296\x7d"]) listState
          (.error (.pattern overflow)) view := by
  have holds := refused_unless_upset 0 profileSurroundings false
  have looksUp : ∀ name ∈ overflowingTokens, ∃ found,
      (profileSurroundings.profiles.resolve listState.files name).outcome.1 = .ok found :=
    fun _ _ => ⟨_, rfl⟩
  have upset : Filter.UpsetsBy profileSurroundings.characters listState.files
      ["grep", "--regexp", "a\x7b4294967296\x7d"] (.pattern overflow) :=
    ⟨_, _, .grep, _, rfl, rfl, rfl, .keep ⟨by decide +kernel, by decide⟩⟩
  have faulty := (holds.1 listState.files true overflowingTokens _ looksUp).mpr
    ⟨"run", _, .run, _, _, _, [], _, [], [], rfl, by decide, by decide,
      .found rfl (by decide) rfl, rfl, by decide, .nil, upset⟩
  refine ⟨faulty, ?_, ?_⟩
  · exact holds.2.2.1 listState "run e | sort" "run e | sort" ["run", "e", "|", "sort"] _ [] none
      rfl rfl rfl rfl
  · have split : Tokens.split "run e | grep --regexp a\x7b4294967296\x7d" =
      .ok overflowingTokens := by decide +kernel
    rcases Resolution.ofTokens_eq_error_iff.mp faulty with
      ⟨name, behind, command, same, known, upsets⟩
    rw [same] at split
    exact (holds.2.2.2 _ listState _).mpr ⟨[], _, [], listState, rfl, .nil _, rfl,
      .resolution rfl split known upsets⟩

end Engine

end Runbook
