import Runbook.Proofs.Engine.Flattening
import Runbook.Proofs.Engine.Reporting
import Runbook.Proofs.Run.Ending

/-! # Unrolling loops

A line that starts a loop over a block comes to the same as a flat run of the loop's
iterations: it succeeds or fails with it, and prints, records, binds and writes the same,
whatever the block does to the variables. The values are those that the loop had when it
started. There is one difference. A fault that no line of the block has caught ends a
flat run, but the line of the loop catches it, reports it and fails.
-/

namespace Runbook

open Script (Instruction)

namespace Engine

/-! ## Iterations -/

/-- The values that a supply comes to in the end. -/
inductive Supply.Yields : Supply → List String → Prop
  | nil {supply : Supply} (ended : supply.next? = none) : Yields supply []
  | cons {supply rest : Supply} {value : String} {values : List String}
      (goesOn : supply.next? = some (value, rest)) (yields : Yields rest values) :
      Yields supply (value :: values)

theorem Supply.yields_listed (values : List String) : (Supply.listed values).Yields values := by
  induction values with
  | nil => exact .nil rfl
  | cons value rest induction => exact .cons rfl induction

theorem follows_rounds {surroundings : Surroundings} (unwatched : surroundings.Unwatched)
    {part other : Run Bool} (follows : Follows part other) (name : String)
    (values : List String) : Follows (rounds name part values) (rounds name other values) := by
  induction values with
  | nil => exact .pure true
  | cons value values induction =>
      rw [rounds, rounds]
      refine ((Elementary.setVariable _ _).follows unwatched).bind fun _ => ?_
      refine follows.bind fun succeeded => ?_
      split
      · exact induction
      · exact .pure false

/-- How a loop ends. There is nothing left to be reported. -/
def loopEnding (succeeded : Bool) : Ending := if succeeded then .done else .failed []

theorem Coincide.isStopped {α : Type} (next : Bool → Run α) :
    Coincide (Run.isStopped >>= next) (next false) := by
  intro state goesOn
  change (next state.isStopped).outcome state = _
  rw [goesOn]

/-- With enough fuel, a loop that shows no values comes down to its iterations. -/
theorem loop_rounds {surroundings : Surroundings} (unwatched : surroundings.Unwatched)
    {run : Runner} {block : List Instruction}
    (steady : Follows (run surroundings surroundings.verbose block)
      (run surroundings surroundings.verbose block))
    {settings : Options.Settings} (quiet : settings.isOn "verbose" = false) (command : Command)
    {supply : Supply} {values : List String} (yields : supply.Yields values)
    {fuel : Nat} (enough : values.length < fuel) :
    Coincide (loop run surroundings command settings block fuel supply)
      (loopEnding <$> rounds (settings.text "dest")
        (Run.inInnerFrame (run surroundings surroundings.verbose block)) values) := by
  induction yields generalizing fuel with
  | nil ended =>
      cases fuel with
      | zero => contradiction
      | succ fuel =>
          rw [loop, ended, rounds, map_pure]
          exact .of_eq rfl
  | cons goesOn yields induction =>
      cases fuel with
      | zero => contradiction
      | succ fuel =>
          have less := Nat.lt_of_succ_lt_succ enough
          rw [loop, goesOn]
          refine (Coincide.isStopped _).trans ?_
          simp only [rounds, andThen, map_bind, quiet, Bool.false_or, Bool.false_eq_true, if_false]
          refine .bind ((Elementary.setVariable _ _).follows unwatched) fun _ => ?_
          refine .trans (.of_eq (pure_bind _ _)) (.bind steady.inInnerFrame fun succeeded => ?_)
          cases succeeded with
          | true => exact induction less
          | false => exact .of_eq (map_pure _ _).symm

/-! ## The line of a loop -/

/-- What the line of a loop comes to before its block is run. -/
structure LoopStart where
  line : String
  setup : Setup
  settings : Options.Settings
  supply : Supply

/-- In a state, a line that has a block below it starts a loop that shows no values. -/
structure Starts (surroundings : Surroundings) (state : State) (line : String)
    (start : LoopStart) : Prop where
  expands : state.bindings.expand surroundings.host surroundings.limit line = .ok start.line
  resolves : ∃ tokens, Tokens.split start.line = .ok tokens ∧
    (Resolution.ofTokens surroundings.characters surroundings.profiles state.files true
      tokens).outcome.1 = .ok (.ready start.setup)
  takesBlock : start.setup.command.takesBlock = true
  reads : ∃ grammar, start.setup.command.grammar? = some grammar ∧
    Options.read grammar start.setup.options = .ok start.settings
  supplies : ((supplyOf start.setup.command start.settings).outcome state).1 =
    some (.ok (.ok start.supply))
  quiet : start.settings.isOn "verbose" = false

/-- Run what a line stands for, and catch its faults as the line does. -/
def guarded (surroundings : Surroundings) (command : Command) (line : String)
    (part : Run Bool) : Run LineResult := do
  let succeeded ← Run.inFrame false do
    conclude surroundings command line (← Run.attempt part)
  return ⟨succeeded, true⟩

theorem readOptions_eq {command : Command} {grammar : Options.Grammar} {options : List String}
    {settings : Options.Settings} (grammatical : command.grammar? = some grammar)
    (read : Options.read grammar options = .ok settings) :
    readOptions command options = pure (.ok (settings, [])) := by
  rw [readOptions, grammatical]
  dsimp only
  rw [read]

theorem outcome_supplyOf (command : Command) (settings : Options.Settings)
    {state other : State} (same : other.bindings = state.bindings) :
    (supplyOf command settings).outcome other =
      (((supplyOf command settings).outcome state).1, other) := by
  unfold supplyOf
  split
  · dsimp only
    split
    · rfl
    · rfl
  · unfold Perform.valueOf
    simp only [Run.outcome_bind, Run.outcome_get, Run.proceed, same]
    rcases state.bindings.get? _ with _ | ⟨_ | _⟩
    · rfl
    · rfl
    · rfl

/-- The loop of a line, and the report of its end. -/
def LoopStart.run (start : LoopStart) (run : Runner) (fuel : Nat) (surroundings : Surroundings)
    (body : List Instruction) : Run Bool := do
  reportEnding surroundings start.setup.command
    (← loop run surroundings start.setup.command start.settings body fuel start.supply)

section Line

variable {surroundings : Surroundings} {state : State} {line : String} {start : LoopStart}
  (starts : Starts surroundings state line start)
include starts

theorem perform_of_starts (run : Runner) (fuel : Nat) (given : Given)
    (block : Option (List Instruction)) :
    perform run fuel surroundings start.setup.command given block =
      runLoop run fuel surroundings start.setup.command given.settings block := by
  have iterates := starts.takesBlock
  generalize start.setup.command = command at iterates ⊢
  cases command with
  | forRange | forEach => rfl
  | _ => contradiction

theorem outcome_runSetup_of_starts (run : Runner) (fuel : Nat) (body : List Instruction)
    {other : State} (same : other.bindings = state.bindings) :
    (runSetup run fuel surroundings start.setup (some body)).outcome other =
      (start.run run fuel surroundings body).outcome other := by
  rcases starts.reads with ⟨grammar, takes, read⟩
  have supplied : (supplyOf start.setup.command start.settings).outcome other =
      (some (.ok (.ok start.supply)), other) := by
    rw [outcome_supplyOf _ _ same, starts.supplies]
  rw [runSetup, execute, readOptions_eq takes read, pure_bind, LoopStart.run, Run.outcome_bind, Run.outcome_bind]
  dsimp only
  rw [perform_of_starts starts, runLoop, Run.outcome_bind, supplied, Run.proceed]

omit starts in
theorem outcome_runLine_of_expands {expanded : String}
    (expands : state.bindings.expand surroundings.host surroundings.limit line = .ok expanded)
    (run : Runner) (fuel : Nat) (block : Option (List Instruction)) :
    (runLine run fuel surroundings false line block).outcome state =
      (runExpanded run fuel surroundings expanded block).outcome (state.note (.began line)) := by
  have same : (state.note (.began line)).bindings = state.bindings := rfl
  unfold runLine echo
  simp only [Bool.false_eq_true, if_false, pure_bind, Run.outcome_bind, Run.outcome_modify,
    Run.outcome_get, Run.proceed, same, expands]

theorem outcome_dispatch_of_starts (run : Runner) (fuel : Nat) (body : List Instruction)
    {other : State} (same : other.bindings = state.bindings) :
    (dispatch run fuel surroundings start.line start.setup (some body)).outcome other =
      (Run.inFrame false do
        conclude surroundings start.setup.command start.line
          (← Run.attempt (start.run run fuel surroundings body))).outcome
        (other.note (.started start.setup.command)) := by
  let framed := State.note (.started start.setup.command)
    { other with stops := false :: other.stops }
  have ran : (runSetup run fuel surroundings start.setup (some body)).outcome framed =
      (start.run run fuel surroundings body).outcome framed :=
    outcome_runSetup_of_starts starts run fuel body same
  rw [dispatch, Run.outcome_inFrame, Run.outcome_inFrame, Run.outcome_bind, Run.outcome_modify,
    Run.proceed, Run.outcome_bind, Run.outcome_bind, Run.outcome_attempt, ran]
  rfl

omit starts in
theorem outcome_runExpanded_of_ready (state : State) {tokens : List String} {setup : Setup}
    (split : Tokens.split line = .ok tokens)
    (resolved : (Resolution.ofTokens surroundings.characters surroundings.profiles state.files true
      tokens).outcome.1 = .ok (.ready setup)) (takes : setup.command.takesBlock = true)
    (run : Runner) (fuel : Nat) (body : List Instruction) :
    (runExpanded run fuel surroundings line (some body)).outcome state =
      (do return ⟨← dispatch run fuel surroundings line setup (some body), true⟩ :
        Run LineResult).outcome
        ((Resolution.ofTokens surroundings.characters surroundings.profiles state.files true
          tokens).outcome.2.foldl (fun state record => state.note (.logged record)) state) := by
  rw [runExpanded, split]
  dsimp only
  rw [Run.outcome_bind, Run.outcome_get, Run.proceed, Run.outcome_bind, Run.outcome_ofLogged,
    resolved, Run.proceed]
  dsimp only
  rw [takes]
  rfl

/-- Before the loop, the line only leaves records that nobody sees. -/
theorem exists_outcome_runLine (body : List Instruction) :
    ∃ prepared, prepared.view = state.view ∧ prepared.stops = state.stops ∧
      ∀ run fuel, (runLine run fuel surroundings false line (some body)).outcome state =
        (guarded surroundings start.setup.command start.line
          (start.run run fuel surroundings body)).outcome prepared := by
  rcases starts.resolves with ⟨tokens, split, resolved⟩
  let begun := state.note (.began line)
  let records := (Resolution.ofTokens surroundings.characters surroundings.profiles begun.files true
    tokens).outcome.2
  let logged := records.foldl (fun state record => state.note (.logged record)) begun
  have view : logged.view = state.view :=
    (State.view_foldl_logged _ _).trans (State.view_note_of_unseen rfl _)
  refine ⟨logged.note (.started start.setup.command), ?_, ?_, fun run fuel => ?_⟩
  · rw [State.view_note_of_unseen rfl, view]
  · exact State.stops_foldl_logged _ begun
  · rw [outcome_runLine_of_expands starts.expands,
      outcome_runExpanded_of_ready begun split resolved starts.takesBlock, guarded,
      Run.outcome_bind, Run.outcome_bind,
      outcome_dispatch_of_starts starts _ _ _ (congrArg View.bindings view)]

end Line

/-! ## The same end -/

theorem reportEnding_followed (surroundings : Surroundings) (command : Command)
    (succeeded : Bool) :
    Follows (reportEnding surroundings command (loopEnding succeeded)) (pure succeeded) := by
  intro left right alike result final ended
  cases succeeded with
  | true => exact Follows.pure true alike ended
  | false =>
      cases ended
      exact ⟨right, rfl, (State.view_note_of_unseen rfl left).trans alike.view, rfl, rfl⟩

theorem reportEnding_follows (surroundings : Surroundings) (command : Command)
    (succeeded : Bool) :
    Follows (pure succeeded) (reportEnding surroundings command (loopEnding succeeded)) := by
  intro left right alike result final ended
  cases succeeded with
  | true => exact Follows.pure true alike ended
  | false =>
      cases ended
      exact ⟨_, rfl, alike.view.trans (State.view_note_of_unseen rfl right).symm, rfl, rfl⟩

section Same

variable {surroundings : Surroundings} (unwatched : surroundings.Unwatched)
  {start : LoopStart} (quiet : start.settings.isOn "verbose" = false) {values : List String}
  (yields : start.supply.Yields values) {fuel more : Nat} (enough : values.length ≤ more)
  (body : List Instruction)
include unwatched quiet yields enough

theorem coincide_run :
    Coincide (start.run (runBlock (more + 1)) (more + 1) surroundings body)
      (rounds (start.settings.text "dest") (Run.inInnerFrame
          (runBlock (more + 1) surroundings surroundings.verbose body)) values >>=
        fun succeeded => reportEnding surroundings start.setup.command (loopEnding succeeded)) := by
  have steady := follows_runBlock (Nat.le_refl (more + 1)) surroundings unwatched
    surroundings.verbose body
  have looped := loop_rounds unwatched steady quiet start.setup.command yields
    (Nat.lt_succ_of_le enough)
  exact (looped.bind_first _).trans (.of_eq (bind_map_left ..))

theorem run_followed :
    Follows (start.run (runBlock (more + 1)) (more + 1) surroundings body)
      (rounds (start.settings.text "dest")
        (runItems (runBlock more) more surroundings surroundings.verbose none body) values) := by
  refine (coincide_run unwatched quiet yields enough body).follows ?_
  have framed : Follows
      (Run.inInnerFrame (runBlock (more + 1) surroundings surroundings.verbose body))
      (runItems (runBlock more) more surroundings surroundings.verbose none body) :=
    (follows_runBlock (Nat.le_refl (more + 1)) surroundings unwatched _ body).innerFrameLeader
  have reported := (follows_rounds unwatched framed (start.settings.text "dest") values).bind
    (reportEnding_followed surroundings start.setup.command)
  rwa [bind_pure] at reported

theorem run_follows (less : fuel ≤ more) :
    Follows (rounds (start.settings.text "dest")
        (runItems (runBlock fuel) fuel surroundings surroundings.verbose none body) values)
      (start.run (runBlock (more + 1)) (more + 1) surroundings body) := by
  refine (coincide_run unwatched quiet yields enough body).symm.followed ?_
  have framed : Follows
      (runItems (runBlock fuel) fuel surroundings surroundings.verbose none body)
      (Run.inInnerFrame (runBlock (more + 1) surroundings surroundings.verbose body)) :=
    (follows_runBlock (Nat.succ_le_succ less) surroundings unwatched _ body).innerFrameFollower
  have reported := (follows_rounds unwatched framed (start.settings.text "dest") values).bind
    (reportEnding_follows surroundings start.setup.command)
  rwa [bind_pure] at reported

end Same

end Engine

/-! ## Endings -/

theorem Follows.guarded {surroundings : Surroundings} (unwatched : surroundings.Unwatched)
    {part other : Run Bool} (follows : Follows part other) (command : Command) (line : String) :
    Follows (Engine.guarded surroundings command line part)
      (Engine.guarded surroundings command line other) := by
  refine Follows.bind (Follows.inFrame ?_) fun succeeded => .pure _
  exact follows.attempt.bind fun result =>
    Engine.follows_conclude unwatched command line result

/-- What can be seen once a fault of a line has been reported. -/
def View.reporting (view : View) (line : String) (fault : Fault) : View :=
  { view with
    printed := view.printed ++ [(false, s!"Failed to execute command: {line}\n{fault.message}")]
    errors := view.errors ++ [s!"Failed to execute command: {line}\n{fault.report}"] }

namespace Engine

theorem endsIn_reportFault {surroundings : Surroundings} (unwatched : surroundings.Unwatched)
    (command : Command) (line : String) (fault : Fault) (state : State) :
    EndsIn (reportFault surroundings command line fault) state (.ok false)
      (state.view.reporting line fault) := by
  refine endsIn_iff.mpr ⟨_, rfl, ?_⟩
  simp [unwatched _, State.view, State.events, State.note, View.reporting, List.filterMap_cons,
    Event.output?]

/-- A line succeeds or fails with what it stands for, but it catches a fault. -/
theorem endsIn_guarded {surroundings : Surroundings} (unwatched : surroundings.Unwatched)
    (command : Command) (line : String) (part : Run Bool) (state : State)
    (result : Except Fault LineResult) (view : View) :
    EndsIn (guarded surroundings command line part) state result view ↔
      (∃ succeeded, result = .ok ⟨succeeded, true⟩ ∧
        EndsIn (Run.inFrame false part) state (.ok succeeded) view) ∨
      ∃ fault caught, result = .ok ⟨false, true⟩ ∧ view = caught.reporting line fault ∧
        EndsIn (Run.inFrame false part) state (.error fault) caught := by
  have framed := Run.outcome_inFrame false part state
  have whole : (guarded surroundings command line part).outcome state =
      Run.proceed (fun succeeded => pure ⟨succeeded, true⟩) (Run.leaveFrame
        (Run.proceed (conclude surroundings command line) ((Run.attempt part).outcome
          { state with stops := false :: state.stops }))) := by
    rw [guarded, Run.outcome_bind, Run.outcome_inFrame, Run.outcome_bind]
  rw [Run.outcome_attempt] at whole
  generalize part.outcome _ = outcome at framed whole
  rcases outcome with ⟨_ | fault | succeeded, inner⟩
  · simp only [not_endsIn_of_outcome whole, not_endsIn_of_outcome framed, and_false, exists_false,
      or_false]
  · rcases endsIn_iff.mp (endsIn_reportFault unwatched command line fault inner) with
      ⟨final, reported, seen⟩
    rw [Option.map_some, Run.proceed, conclude, reported] at whole
    rw [endsIn_of_outcome whole]
    constructor
    · rintro ⟨rfl, rfl⟩
      exact .inr ⟨fault, inner.view, rfl, seen, (endsIn_of_outcome framed).mpr ⟨rfl, rfl⟩⟩
    · rintro (⟨succeeded, rfl, ends⟩ | ⟨other, caught, rfl, rfl, ends⟩)
      · cases ((endsIn_of_outcome framed).mp ends).1
      · rcases (endsIn_of_outcome framed).mp ends with ⟨⟨⟩, rfl⟩
        exact ⟨rfl, seen.symm⟩
  · rw [endsIn_of_outcome whole]
    constructor
    · rintro ⟨rfl, rfl⟩
      exact .inl ⟨succeeded, rfl, (endsIn_of_outcome framed).mpr ⟨rfl, rfl⟩⟩
    · rintro (⟨other, rfl, ends⟩ | ⟨fault, caught, rfl, rfl, ends⟩)
      · rcases (endsIn_of_outcome framed).mp ends with ⟨⟨⟩, rfl⟩
        exact ⟨rfl, rfl⟩
      · cases ((endsIn_of_outcome framed).mp ends).1

/-! ## Unrolling -/

/-- Run the iterations of a loop one after the other, as the instructions of one block. -/
def runUnrolled (fuel : Nat) (surroundings : Surroundings) (name : String)
    (body : List Instruction) (values : List String) : Run Bool :=
  Run.inFrame false
    (runSteps (runBlock fuel) fuel surroundings surroundings.verbose none
      (unrolled name body values))

section Unrolling

variable {surroundings : Surroundings} (unwatched : surroundings.Unwatched)
include unwatched

theorem outcome_runUnrolled (fuel : Nat) (name : String) (body : List Instruction)
    (values : List String) (state : State) :
    (runUnrolled fuel surroundings name body values).outcome state =
      (Run.inFrame false (rounds name
        (runItems (runBlock fuel) fuel surroundings surroundings.verbose none body)
        values)).outcome state := by
  have steady := fun surroundings unwatched verbose instructions =>
    follows_runBlock (Nat.le_refl fuel) surroundings unwatched verbose instructions
  rw [runUnrolled, Run.outcome_inFrame, Run.outcome_inFrame,
    runSteps_unrolled steady unwatched name body values rfl]

variable {state : State} (goesOn : state.isStopped = false) {line : String} {start : LoopStart}
  (starts : Starts surroundings state line start) {values : List String}
  (yields : start.supply.Yields values) (body : List Instruction)
  (result : Except Fault LineResult) (view : View)
include goesOn starts yields

/-- Apart from its faults, the line of a loop ends as the iterations do. The fuel need
not be the same, since the line spends some on every iteration. -/
theorem endsIn_runLine_iff_rounds :
    (∃ fuel, EndsIn (runLine (runBlock fuel) fuel surroundings false line (some body)) state
        result view) ↔
      ∃ fuel, EndsIn (guarded surroundings start.setup.command start.line
        (rounds (start.settings.text "dest")
          (runItems (runBlock fuel) fuel surroundings surroundings.verbose none body) values))
        state result view := by
  rcases exists_outcome_runLine starts body with ⟨prepared, same, stops, ran⟩
  have alike : Alike state prepared :=
    ⟨same.symm, goesOn, (State.isStopped_congr stops).trans goesOn⟩
  constructor
  · rintro ⟨fuel, ends⟩
    let more := max fuel values.length
    have less : fuel ≤ more + 1 := Nat.le_succ_of_le (Nat.le_max_left ..)
    have longer := (follows_runLine (fun around calm => follows_runBlock less around calm) less
      unwatched false line (some body)).endsIn ⟨rfl, goesOn, goesOn⟩ ends
    have looped := (endsIn_congr (ran (runBlock (more + 1)) (more + 1))).mp longer
    have followed := run_followed unwatched starts.quiet yields (Nat.le_max_right fuel _) body
    exact ⟨more, (followed.guarded unwatched _ _).endsIn
      ⟨same, alike.goesOnToo, goesOn⟩ looped⟩
  · rintro ⟨fuel, ends⟩
    let more := max fuel values.length
    have follows := run_follows unwatched starts.quiet yields (Nat.le_max_right fuel _) body
      (Nat.le_max_left fuel _)
    have looped := (follows.guarded unwatched start.setup.command start.line).endsIn alike ends
    exact ⟨more + 1, (endsIn_congr (ran (runBlock (more + 1)) (more + 1))).mpr looped⟩

/-- The line of a loop ends as the flat run of its iterations does, except that it
reports a fault that ends the flat run. -/
theorem loop_unrolls :
    (∃ fuel, EndsIn (runLine (runBlock fuel) fuel surroundings false line (some body)) state
        result view) ↔
      (∃ succeeded, result = .ok ⟨succeeded, true⟩ ∧
        ∃ fuel, EndsIn (runUnrolled fuel surroundings (start.settings.text "dest") body values)
          state (.ok succeeded) view) ∨
      ∃ fault caught, result = .ok ⟨false, true⟩ ∧ view = caught.reporting start.line fault ∧
        ∃ fuel, EndsIn (runUnrolled fuel surroundings (start.settings.text "dest") body values)
          state (.error fault) caught := by
  rw [endsIn_runLine_iff_rounds unwatched goesOn starts yields]
  simp only [endsIn_guarded unwatched,
    endsIn_congr (outcome_runUnrolled unwatched _ (start.settings.text "dest") body values state)]
  constructor
  · rintro ⟨fuel, ⟨succeeded, ended, ends⟩ | ⟨fault, caught, ended, seen, ends⟩⟩
    · exact .inl ⟨succeeded, ended, fuel, ends⟩
    · exact .inr ⟨fault, caught, ended, seen, fuel, ends⟩
  · rintro (⟨succeeded, ended, fuel, ends⟩ | ⟨fault, caught, ended, seen, fuel, ends⟩)
    · exact ⟨fuel, .inl ⟨succeeded, ended, ends⟩⟩
    · exact ⟨fuel, .inr ⟨fault, caught, ended, seen, ends⟩⟩

end Unrolling

/-! ### A fault inside a block -/

def profileSurroundings : Surroundings :=
  { bareSurroundings with profiles := .listed [⟨"e", "true", [], [], none⟩] }

def listState : State :=
  .initial (Variables.empty.set "xs" (.array ["a", "b"])) ⟨.directory (.ofList []), []⟩

def listStart : LoopStart where
  line := "foreach --iterate xs --dest x"
  setup := ⟨.forEach, none, [], ["--iterate", "xs", "--dest", "x"]⟩
  settings := ⟨[("iterate", .text "xs"), ("dest", .text "x"), ("verbose", .switch false)]⟩
  supply := .listed ["a", "b"]

/-- The pattern of the second line has a repetition that is too large. Patterns of filters
are read before the line has a command that would catch the fault. -/
def overflowingBlock : List Instruction :=
  [.line "echo --message ${x}", .line "run e | grep --regexp a\x7b4294967296\x7d"]

theorem starts_list : Starts profileSurroundings listState listStart.line listStart where
  expands := rfl
  resolves := ⟨["foreach", "--iterate", "xs", "--dest", "x"], rfl, rfl⟩
  takesBlock := rfl
  reads := ⟨_, rfl, rfl⟩
  supplies := rfl
  quiet := rfl

def faultText? : Except Fault Bool → Option String
  | .error fault => some fault.message
  | .ok _ => none

/-- The flat run ends in a fault, and the line of the loop fails. -/
theorem loop_unrolls_overflowing :
    ∃ fault caught,
      EndsIn (runUnrolled 5 profileSurroundings "x" overflowingBlock ["a", "b"]) listState
          (.error fault) caught ∧
        fault.message = "the repetition number is too large" ∧
        ∃ fuel, EndsIn (runLine (runBlock fuel) fuel profileSurroundings false listStart.line
            (some overflowingBlock)) listState
          (.ok ⟨false, true⟩) (caught.reporting listStart.line fault) := by
  have failed : ((runUnrolled 5 profileSurroundings "x" overflowingBlock ["a", "b"]).run
      listState).map (fun ended => faultText? ended.1) =
        some (some "the repetition number is too large") := by
    decide +kernel
  rcases Option.map_eq_some_iff.mp failed with ⟨⟨result, final⟩, ran, message⟩
  cases result with
  | ok succeeded => cases message
  | error fault =>
      have ends : EndsIn (runUnrolled 5 profileSurroundings "x" overflowingBlock ["a", "b"])
          listState (.error fault) final.view := ⟨final, ran, rfl⟩
      refine ⟨fault, final.view, ends, Option.some.inj message, ?_⟩
      exact (loop_unrolls (fun _ => rfl) rfl starts_list (Supply.yields_listed _)
        overflowingBlock _ _).mpr (.inr ⟨fault, final.view, rfl, rfl, 5, ends⟩)

end Engine

end Runbook
