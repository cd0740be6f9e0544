import Runbook.Proofs.Engine.Parts

/-! # Reporting failures

A run that fails records exactly one error, however deep inside loops and scripts it
has failed, and a run that succeeds records none. Along the way a failure passes
through parts that have recorded it already and parts that have not, so what is said
about a part counts the errors that have been recorded before it. A fault is always
still to be recorded.
-/

namespace Runbook

open Script (Instruction)

/-- After `before` errors had been recorded, there was an outcome with `total` of its
value. A fault comes only if none had been recorded. -/
def Reported {α : Type} (before : Nat) (total : α → Nat) (state : State) :
    Option (Except Fault α) × State → Prop
  | (none, _) => True
  | (some (.error _), final) => before = 0 ∧ final.errors = state.errors
  | (some (.ok value), final) =>
      ∃ messages, final.errors = state.errors ++ messages ∧ before + messages.length = total value

def Reports {α : Type} (before : Nat) (total : α → Nat) (part : Run α) : Prop :=
  ∀ state, Reported before total state (part.outcome state)

/-- The number of errors that a success or a failure comes with. -/
def failures (succeeded : Bool) : Nat := if succeeded then 0 else 1

/-- The number of errors that have been recorded when a command ends. -/
def Ending.reported : Ending → Nat
  | .failed [] => 1
  | .done | .failed (_ :: _) => 0

theorem Ending.reported_eq_zero {ending : Ending} (unreported : ending.Unreported) :
    ending.reported = 0 := by
  rcases ending with _ | _ | ⟨message, rest⟩
  · rfl
  · contradiction
  · rfl

variable {α β : Type} {before : Nat} {stopsAt : Sighting → Bool}

namespace Reports

variable {part : Run α} {count : α → Nat} {next : α → Run β} {total : β → Nat}

theorem bind_of_returned (reports : Reports before count part)
    (rest : ∀ state value, (part.outcome state).1 = some (.ok value) →
      Reports (count value) total (next value)) :
    Reports before total (part >>= next) := by
  intro state
  have first := reports state
  have rest := rest state
  rw [Run.outcome_bind]
  generalize part.outcome state = outcome at first rest ⊢
  rcases outcome with ⟨_ | fault | value, middle⟩
  · trivial
  · exact first
  · rcases first with ⟨messages, errors, size⟩
    have second := rest value rfl middle
    rw [Run.proceed]
    generalize (next value).outcome middle = outcome at second ⊢
    rcases outcome with ⟨_ | fault | value, final⟩
    · trivial
    · rcases second with ⟨none_, same⟩
      have empty : messages = [] := List.eq_nil_of_length_eq_zero (by omega)
      refine ⟨by omega, ?_⟩
      rw [same, errors, empty, List.append_nil]
    · rcases second with ⟨more, further, grown⟩
      refine ⟨messages ++ more, ?_, ?_⟩
      · rw [further, errors, List.append_assoc]
      · rw [List.length_append]
        omega

theorem bind (reports : Reports before count part)
    (rest : ∀ value, Reports (count value) total (next value)) :
    Reports before total (part >>= next) :=
  reports.bind_of_returned fun _ value _ => rest value

theorem pure {value : α} (counted : count value = before) :
    Reports before count (Pure.pure value) :=
  fun _ => ⟨[], (List.append_nil _).symm, counted.symm⟩

theorem throw (fault : Fault) : Reports 0 count (MonadExcept.throw fault) :=
  fun _ => ⟨rfl, rfl⟩

theorem outOfFuel : Reports before count Run.outOfFuel := fun _ => trivial

theorem ofModify {change : State → State} (errors : ∀ state, (change state).errors = state.errors) :
    Reports before (fun _ => before) (modify change : Run Unit) :=
  fun state => ⟨[], by simpa using errors state, rfl⟩

theorem isStopped : Reports before (fun _ => before) Run.isStopped :=
  fun _ => ⟨[], (List.append_nil _).symm, rfl⟩

theorem get : Reports before (fun _ => before) (MonadState.get : Run State) :=
  fun _ => ⟨[], (List.append_nil _).symm, rfl⟩

theorem record (level : Log.Level) (message : String) :
    Reports before (fun _ => before) (Run.record level message) :=
  ofModify fun _ => rfl

theorem attempt (reports : Reports 0 count part) :
    Reports 0 (fun result => match result with | .ok value => count value | .error _ => 0)
      (Run.attempt part) := by
  intro state
  have first := reports state
  rw [Run.outcome_attempt]
  generalize part.outcome state = outcome at first ⊢
  rcases outcome with ⟨_ | fault | value, final⟩
  · trivial
  · exact ⟨[], by simpa using first.2, rfl⟩
  · exact first

theorem addError (message : String) :
    Reports before (fun _ => before + 1) (Run.addError message) :=
  fun _ => ⟨[message], rfl, rfl⟩

theorem print (surroundings : Surroundings) (stdout : Bool) (text : String) :
    Reports before (fun _ => before) (surroundings.print stdout text) := by
  refine ofModify fun state => ?_
  split <;> rfl

theorem ofLogged_pure (value : α) :
    Reports before (fun _ => before) (Run.ofLogged (Pure.pure value)) := by
  unfold Run.ofLogged
  exact bind (ofModify fun _ => rfl) fun _ => pure rfl

theorem remarkAll (surroundings : Surroundings) (texts : List String) :
    Reports before (fun _ => before) (surroundings.remarkAll texts) := by
  induction texts with
  | nil => exact pure rfl
  | cons text rest induction =>
      rw [Surroundings.remarkAll]
      exact (print surroundings false text).bind fun _ => induction

theorem inFrame (reports : Reports 0 count part) (stopped : Bool) :
    Reports 0 count (Run.inFrame stopped part) := by
  unfold Run.inFrame
  refine bind (ofModify fun _ => rfl) fun _ => ?_
  refine reports.attempt.bind fun result => ?_
  cases result with
  | error fault => exact bind (ofModify fun _ => rfl) fun _ => throw fault
  | ok value => exact bind (ofModify fun _ => rfl) fun _ => pure rfl

theorem inInnerFrame (reports : Reports 0 count part) : Reports 0 count (Run.inInnerFrame part) :=
  isStopped.bind fun stopped => reports.inFrame stopped

end Reports

/-! ## Calm parts -/

section Calm

variable {mid : α → Prop} {part : Run α} {next : α → Run β} {total : β → Nat}

/-- A calm part records nothing. -/
theorem Calm.reports (calm : Calm stopsAt mid part) {count : α → Nat}
    (counted : ∀ value, mid value → count value = 0) : Reports 0 count part := by
  intro state
  rcases calm state with ⟨events, traced⟩
  have errors := traced.rule.2
  have post := traced.post
  generalize part.outcome state = outcome at errors post ⊢
  rcases outcome with ⟨_ | fault | value, final⟩
  · trivial
  · exact ⟨rfl, errors⟩
  · exact ⟨[], by simpa using errors, by simpa using (counted value (post value rfl)).symm⟩

theorem Calm.bindReports (calm : Calm stopsAt mid part)
    (rest : ∀ value, mid value → Reports 0 total (next value)) :
    Reports 0 total (part >>= next) := by
  have silent : Reports 0 (fun _ => 0) part := calm.reports fun _ _ => rfl
  refine silent.bind_of_returned fun state value returned => ?_
  rcases calm state with ⟨events, traced⟩
  exact rest value (traced.post value returned)

end Calm

/-! ## Running lines -/

namespace Engine

variable (surroundings : Surroundings)

theorem reports_report (message : String) :
    Reports before (fun _ => before + 1) (report surroundings message) :=
  (Reports.addError message).bind fun _ => Reports.print surroundings false message

theorem reports_echo (wanted : Bool) (text : String) :
    Reports before (fun _ => before) (echo surroundings wanted text) := by
  unfold echo
  split
  · exact Reports.print surroundings false text
  · exact Reports.pure rfl

theorem reports_fail (message : String) : Reports 0 failures (fail surroundings message) :=
  (reports_report surroundings message).bind fun _ => Reports.pure rfl

/-- The errors of instructions that have variables of their own are added to the others. -/
theorem reports_runApart {part : Run Bool} (reports : Reports 0 failures part) :
    Reports 0 Ending.reported (runApart part) := by
  intro state
  have inner := reports (state.showing .empty [])
  rw [outcome_runApart]
  generalize part.outcome _ = outcome at inner ⊢
  rcases outcome with ⟨_ | fault | succeeded, final⟩
  · trivial
  · exact ⟨rfl, rfl⟩
  · rcases inner with ⟨messages, errors, size⟩
    have all : final.errors = messages := errors
    rw [Nat.zero_add] at size
    rw [rejoin, all]
    cases succeeded with
    | true =>
        have empty : messages = [] := List.eq_nil_of_length_eq_zero size
        rw [empty]
        exact ⟨[], rfl, rfl⟩
    | false => exact ⟨messages, rfl, by rw [size, Nat.zero_add]; rfl⟩

section Running

variable {profiles : List Profile} {run : Runner}
  (runs : ∀ surroundings : Surroundings, surroundings.profiles = .listed profiles →
    ∀ verbose instructions, Reports 0 failures (run surroundings verbose instructions))
  (listed : surroundings.profiles = .listed profiles)
include listed

/-- Profiles that are listed can be shown without any fault. -/
theorem reports_showAlternatives (inScript : Bool) (error : ScriptError) :
    Reports before (fun _ => before) (showAlternatives surroundings inScript error) := by
  unfold showAlternatives
  split
  · exact Reports.remarkAll surroundings _
  · refine Reports.get.bind fun state => ?_
    rw [listed]
    exact (Reports.ofLogged_pure _).bind fun profiles => Reports.print surroundings false _
  · split
    · exact Reports.print surroundings false _
    · exact Reports.pure rfl
  · exact Reports.pure rfl

theorem reports_refuse (inScript : Bool) (error : ScriptError) :
    Reports 0 failures (refuse surroundings inScript error) := by
  refine (reports_report surroundings error.message).bind fun _ => ?_
  exact (reports_showAlternatives surroundings listed inScript error).bind fun _ =>
    Reports.pure rfl

include runs

theorem reports_loop (command : Command) (settings : Options.Settings)
    (block : List Instruction) (fuel : Nat) (supply : Supply) :
    Reports 0 Ending.reported (loop run surroundings command settings block fuel supply) := by
  induction fuel generalizing supply with
  | zero => exact .outOfFuel
  | succ fuel induction =>
      unfold loop
      split
      · exact .pure rfl
      · rename_i value rest _
        refine Reports.isStopped.bind fun stopped => ?_
        split
        · exact (Reports.record _ _).bind fun _ => .pure rfl
        · refine Reports.bind (Reports.ofModify fun _ => rfl) fun _ => ?_
          refine (reports_echo surroundings _ _).bind fun _ => ?_
          refine (runs surroundings listed _ block).inInnerFrame.bind fun succeeded => ?_
          cases succeeded with
          | true => exact induction rest
          | false => exact .pure rfl

theorem reports_runLoop (fuel : Nat) (command : Command) (settings : Options.Settings)
    (block : Option (List Instruction)) :
    Reports 0 Ending.reported (runLoop run fuel surroundings command settings block) := by
  unfold runLoop
  split
  · exact .pure rfl
  · have supplied : Calm surroundings.stopsAt EndsUnreported (supplyOf command settings) :=
      (elementary_supplyOf command settings).calm
    refine supplied.bindReports fun result unreported => ?_
    cases result with
    | error ending => exact .pure (Ending.reported_eq_zero (unreported ending rfl))
    | ok supply => exact reports_loop surroundings runs listed command settings _ fuel supply

theorem reports_runScript (settings : Options.Settings) :
    Reports 0 Ending.reported (runScript run surroundings settings) := by
  unfold runScript
  dsimp only
  have script : Calm surroundings.stopsAt EndsUnreported (readScript (settings.text "file")) :=
    (elementary_readScript _).calm
  refine script.bindReports fun result unreported => ?_
  cases result with
  | error ending => exact .pure (Ending.reported_eq_zero (unreported ending rfl))
  | ok outline =>
      refine (Reports.record _ _).bind fun _ => ?_
      apply reports_runApart
      exact (runs _ (by exact listed) _ _).inInnerFrame

theorem reports_perform (fuel : Nat) (command : Command) (given : Given)
    (block : Option (List Instruction)) :
    Reports 0 Ending.reported (perform run fuel surroundings command given block) := by
  by_cases plain : command.runsLines = false
  · exact (elementary_perform plain run fuel given block).calm.reports
      fun _ unreported => Ending.reported_eq_zero unreported
  · cases command with
    | script => exact reports_runScript surroundings runs listed _
    | forRange => exact reports_runLoop surroundings runs listed fuel _ _ block
    | forEach => exact reports_runLoop surroundings runs listed fuel _ _ block
    | _ => exact absurd rfl plain

theorem reports_execute (fuel : Nat) (setup : Setup) (block : Option (List Instruction)) :
    Reports 0 Ending.reported (execute run fuel surroundings setup block) := by
  unfold execute
  have options : Calm surroundings.stopsAt
      (fun result => ∀ messages, result = .error messages → messages ≠ [])
      (readOptions setup.command setup.options) := (elementary_readOptions _ _).calm
  refine options.bindReports fun result nonempty => ?_
  cases result with
  | error messages =>
      refine .pure (Ending.reported_eq_zero fun empty => ?_)
      cases empty
      exact nonempty [] rfl rfl
  | ok read => exact reports_perform surroundings runs listed fuel _ _ block

theorem reports_runSetup (fuel : Nat) (setup : Setup) (block : Option (List Instruction)) :
    Reports 0 failures (runSetup run fuel surroundings setup block) := by
  refine (reports_execute surroundings runs listed fuel setup block).bind fun ending => ?_
  unfold reportEnding
  rcases ending with _ | _ | ⟨message, rest⟩
  · exact .pure rfl
  · exact (Reports.record _ _).bind fun _ => .pure rfl
  · refine (reports_report surroundings _).bind fun _ => ?_
    exact (Reports.record _ _).bind fun _ => .pure rfl

omit listed runs in
theorem reports_reportFault (command : Command) (line : String) (fault : Fault) :
    Reports 0 failures (reportFault surroundings command line fault) := by
  unfold reportFault
  refine (Reports.record _ _).bind fun _ => ?_
  refine (Reports.addError _).bind fun _ => ?_
  exact (Reports.print surroundings false _).bind fun _ => .pure rfl

theorem reports_dispatch (fuel : Nat) (line : String) (setup : Setup)
    (block : Option (List Instruction)) :
    Reports 0 failures (dispatch run fuel surroundings line setup block) := by
  unfold dispatch
  apply Reports.inFrame
  refine Reports.bind (Reports.ofModify fun _ => rfl) fun _ => ?_
  have tried := (reports_runSetup surroundings runs listed fuel setup block).attempt
  refine tried.bind fun result => ?_
  cases result with
  | ok succeeded => exact .pure rfl
  | error fault => exact reports_reportFault surroundings _ line fault

/-- The number of errors that a line comes with. -/
def LineResult.reported (result : LineResult) : Nat := failures result.succeeded

theorem reports_runExpanded (fuel : Nat) (line : String) (block : Option (List Instruction)) :
    Reports 0 LineResult.reported (runExpanded run fuel surroundings line block) := by
  unfold runExpanded
  split
  · exact (reports_fail surroundings _).bind fun _ => .pure rfl
  · rename_i tokens _
    refine Reports.get.bind fun state => ?_
    have resolved : Calm surroundings.stopsAt (fun _ => True) (Run.ofLogged
      (Resolution.ofTokens surroundings.characters surroundings.profiles state.files true
        tokens)) := .ofLogged _
    refine resolved.bindReports fun resolution _ => ?_
    cases resolution with
    | refused error =>
        exact (reports_refuse surroundings listed true error).bind fun _ => .pure rfl
    | help command => exact (Reports.print surroundings true _).bind fun _ => .pure rfl
    | ready setup =>
        exact (reports_dispatch surroundings runs listed fuel line setup _).bind
          fun _ => .pure rfl

theorem reports_runLine (fuel : Nat) (verbose : Bool) (line : String)
    (block : Option (List Instruction)) :
    Reports 0 LineResult.reported (runLine run fuel surroundings verbose line block) := by
  unfold runLine
  refine Reports.bind (Reports.ofModify fun _ => rfl) fun _ => ?_
  refine (reports_echo surroundings _ _).bind fun _ => ?_
  refine Reports.get.bind fun state => ?_
  split
  · exact .throw _
  · exact (reports_fail surroundings _).bind fun _ => .pure rfl
  · refine (reports_echo surroundings _ _).bind fun _ => ?_
    exact reports_runExpanded surroundings runs listed fuel _ block

omit listed runs in
theorem reports_unlessStopped {part : Run Bool} (reports : Reports 0 failures part) :
    Reports 0 failures (unlessStopped part) := by
  unfold unlessStopped
  refine Reports.isStopped.bind fun stopped => ?_
  split
  · exact (Reports.record _ _).bind fun _ => .pure rfl
  · exact reports

theorem reports_runItems (fuel : Nat) (verbose : Bool) (previous : Option String)
    (instructions : List Instruction) :
    Reports 0 failures (runItems run fuel surroundings verbose previous instructions) := by
  fun_induction runItems run fuel surroundings verbose previous instructions with
  | case1 => exact .pure rfl
  | case2 => exact reports_unlessStopped (reports_fail surroundings _)
  | case3 previous text rest afterBlock afterLine =>
      apply reports_unlessStopped
      refine (reports_runLine surroundings runs listed fuel verbose text _).bind fun result => ?_
      rcases result with ⟨_ | _, tookBlock⟩
      · exact .pure rfl
      · cases tookBlock with
        | false => exact afterLine
        | true =>
            cases rest with
            | nil => exact .pure rfl
            | cons _ rest => exact afterBlock

end Running

variable {profiles : List Profile} (listed : surroundings.profiles = .listed profiles)
include listed

theorem reports_runBlock (fuel : Nat) (verbose : Bool) (instructions : List Instruction) :
    Reports 0 failures (runBlock fuel surroundings verbose instructions) := by
  induction fuel generalizing surroundings verbose instructions with
  | zero => exact .outOfFuel
  | succ fuel induction =>
      exact reports_runItems surroundings (fun around same => induction around same) listed
        fuel verbose none instructions

theorem reports_runCommandLine (fuel : Nat) (line : String) :
    Reports 0 failures (runCommandLine fuel surroundings line) := by
  unfold runCommandLine
  dsimp only
  split
  · exact .pure rfl
  · split
    · exact reports_fail surroundings _
    · rename_i tokens _
      refine Reports.get.bind fun state => ?_
      have resolved : Calm surroundings.stopsAt (fun _ => True) (Run.ofLogged
        (Resolution.ofTokens surroundings.characters surroundings.profiles state.files false
          tokens)) := .ofLogged _
      refine resolved.bindReports fun resolution _ => ?_
      cases resolution with
      | refused error => exact reports_refuse surroundings listed false error
      | help command => exact (Reports.print surroundings true _).bind fun _ => .pure rfl
      | ready setup =>
          exact reports_dispatch surroundings (fun around same => reports_runBlock around same fuel)
            listed fuel _ setup none

end Engine

/-! ## Reporting once -/

/-- A run fails if and only if it has added one error to those recorded before, and
succeeds if and only if it has added none. -/
def ReportsOnce (part : Run Bool) : Prop :=
  ∀ state succeeded final, part.run state = some (.ok succeeded, final) →
    (succeeded = false ↔ ∃ message, final.errors = state.errors ++ [message]) ∧
      (succeeded = true ↔ final.errors = state.errors)

theorem Reports.reportsOnce {part : Run Bool} (reports : Reports 0 failures part) :
    ReportsOnce part := by
  intro state succeeded final ran
  have reported := reports state
  rw [Run.run] at ran
  generalize part.outcome state = outcome at ran reported
  rcases outcome with ⟨_ | _ | result, after⟩
  · contradiction
  · cases ran
  · cases ran
    rcases reported with ⟨messages, errors, size⟩
    rw [Nat.zero_add] at size
    cases succeeded with
    | true =>
        have empty : messages = [] := List.eq_nil_of_length_eq_zero size
        simp [errors, empty]
    | false =>
        rcases List.length_eq_one_iff.mp size with ⟨message, rfl⟩
        simp [errors]

/-- However loops and scripts are nested, blocks and single lines report once. -/
theorem engine_reportsOnce (fuel : Nat) {surroundings : Surroundings} {profiles : List Profile}
    (listed : surroundings.profiles = .listed profiles) :
    (∀ verbose instructions,
        ReportsOnce (Engine.runBlock fuel surroundings verbose instructions)) ∧
      ∀ line, ReportsOnce (Engine.runCommandLine fuel surroundings line) :=
  ⟨fun verbose instructions =>
      (Engine.reports_runBlock surroundings listed fuel verbose instructions).reportsOnce,
    fun line => (Engine.reports_runCommandLine surroundings listed fuel line).reportsOnce⟩

/-- Surroundings without profiles, programs and watchers. -/
def bareSurroundings : Surroundings where
  host := []
  limit := .passes 100
  profiles := .listed []
  characters := fun _ => none
  verbose := false
  killTimeout := .ofNat 5
  environment := []
  launch := fun _ _ => .error (.state "There are no programs.")
  stopsAt := fun _ => false

/-- A script that is run by a script file, and fails in a loop. -/
def nestedState : State :=
  .initial .empty ⟨.directory (.ofList [("inner", .file
    "set xs=a\nforeach --iterate xs --dest x\n  unset\n".toUTF8)]), []⟩

theorem engine_reportsOnce_nested :
    ∃ final, (Engine.runCommandLine 5 bareSurroundings "script --file inner").run nestedState =
        some (.ok false, final) ∧
      ∃ message, final.errors = nestedState.errors ++ [message] := by
  have once : ReportsOnce (Engine.runCommandLine 5 bareSurroundings "script --file inner") :=
    (engine_reportsOnce 5 rfl).2 _
  have failed : ((Engine.runCommandLine 5 bareSurroundings "script --file inner").run
      nestedState).map (fun ended => ended.1.toOption) = some (some false) := by
    decide +kernel
  rcases Option.map_eq_some_iff.mp failed with ⟨⟨result, final⟩, ran, returned⟩
  cases result with
  | error fault => cases returned
  | ok succeeded =>
      cases returned
      exact ⟨final, ran, (once nestedState false final ran).1.mp rfl⟩

end Runbook
