import Runbook.Perform
import Runbook.Proofs.Run.Elementary

/-! # Elementary commands

Every command that runs no further lines is elementary. When it fails, it leaves a
message that is still to be reported.
-/

namespace Runbook

/-- An ending that is a success, or a failure with messages that are still to be
reported. -/
def Ending.Unreported (ending : Ending) : Prop := ending ≠ .failed []

/-- If a result is an ending, its messages are still to be reported. -/
def EndsUnreported {α : Type} (result : Except Ending α) : Prop :=
  ∀ ending, result = .error ending → ending.Unreported

theorem endsUnreported_ok {α : Type} (value : α) : EndsUnreported (.ok value) :=
  fun ending equal => by contradiction

theorem endsUnreported_error {α : Type} (message : String) :
    EndsUnreported (.error (.failed [message]) : Except Ending α) := by
  rintro ending ⟨⟩
  simp [Ending.Unreported]

namespace Perform

variable {surroundings : Surroundings} (characters : Pattern.CharacterNames) (given : Given)

theorem elementary_done : Elementary surroundings Ending.Unreported (return .done) :=
  .pure (by simp [Ending.Unreported])

theorem elementary_fail (message : String) :
    Elementary surroundings Ending.Unreported (fail message) :=
  .pure (by simp [Ending.Unreported])

/-! ## Output and help -/

theorem elementary_echo : Elementary surroundings Ending.Unreported (echo surroundings given) :=
  (Elementary.print _ _).bind fun _ _ => elementary_done

theorem elementary_listCommands :
    Elementary surroundings Ending.Unreported (listCommands surroundings) :=
  (Elementary.sayAll _).bind fun _ _ => elementary_done

theorem elementary_listProfiles (verbose : Bool) :
    Elementary surroundings Ending.Unreported (listProfiles surroundings verbose) := by
  unfold listProfiles
  refine .get (fun _ => rfl) fun state => ?_
  refine (Elementary.ofLogged _).bind fun profiles _ => ?_
  dsimp only
  split
  · exact (Elementary.say _).bind fun _ _ => elementary_done
  · exact (Elementary.sayAll _).bind fun _ _ => elementary_done

theorem elementary_help : Elementary surroundings Ending.Unreported (help surroundings) := by
  refine (elementary_listCommands).bind fun _ _ => ?_
  refine (Elementary.say _).bind fun _ _ => ?_
  refine (elementary_listProfiles false).bind fun _ _ => ?_
  exact (Elementary.say _).bind fun _ _ => elementary_done

theorem elementary_listScriptCommands :
    Elementary surroundings Ending.Unreported (listScriptCommands surroundings) :=
  (Elementary.sayAll _).bind fun _ _ => elementary_done

theorem elementary_scriptHelp :
    Elementary surroundings Ending.Unreported (scriptHelp surroundings given) := by
  unfold scriptHelp
  simp only
  split
  · exact (Elementary.sayAll _).bind fun _ _ => elementary_done
  · split
    · exact elementary_fail _
    · exact (Elementary.sayAll _).bind fun _ _ => elementary_done

theorem elementary_filterHelp :
    Elementary surroundings Ending.Unreported (filterHelp surroundings given) := by
  unfold filterHelp
  simp only
  split
  · exact (Elementary.sayAll _).bind fun _ _ => elementary_done
  · split
    · exact elementary_fail _
    · exact (Elementary.say _).bind fun _ _ => elementary_done

/-! ## Variables -/

theorem elementary_valueOf (name : String) :
    Elementary surroundings EndsUnreported (valueOf name) := by
  unfold valueOf
  refine .get (fun _ => rfl) fun state => ?_
  split
  · exact .pure (endsUnreported_ok _)
  · exact .pure (endsUnreported_error _)

theorem elementary_store (value : Value) :
    Elementary surroundings Ending.Unreported (store given value) :=
  (Elementary.setVariable _ _).bind fun _ _ => elementary_done

theorem elementary_set : Elementary surroundings Ending.Unreported (set given) := by
  unfold set
  split
  · exact elementary_fail _
  · split
    · exact elementary_fail _
    · exact (Elementary.setVariable _ _).bind fun _ _ => elementary_done

theorem elementary_unset : Elementary surroundings Ending.Unreported (unset given) := by
  unfold unset
  split
  · exact (Elementary.rebind (·.remove _)).bind fun _ _ => elementary_done
  · exact elementary_fail _

theorem elementary_dumpVariables :
    Elementary surroundings Ending.Unreported (dumpVariables surroundings) := by
  refine .get (fun _ => rfl) fun state => ?_
  exact (Elementary.sayAll _).bind fun _ _ => elementary_done

theorem elementary_calculate : Elementary surroundings Ending.Unreported (calculate given) := by
  unfold calculate
  simp only
  split
  · refine (Elementary.ofExcept _).bind fun value _ => ?_
    exact (Elementary.setVariable _ _).bind fun _ _ => elementary_done
  · split
    · exact elementary_fail _
    · exact elementary_fail _
    · exact elementary_fail _
    · exact .throw _
    · exact .throw _

/-! ## Texts -/

theorem elementary_patternOf (problem text : String) :
    Elementary surroundings EndsUnreported (patternOf characters problem text) := by
  unfold patternOf
  split
  · exact .pure (endsUnreported_ok _)
  · split
    · exact .pure (endsUnreported_error _)
    · exact .throw _

theorem endsUnreported_map {α β : Type} {result : Except Ending α}
    (unreported : EndsUnreported result) (change : α → β) :
    EndsUnreported (result.map change) := by
  cases result with
  | error ending =>
      rintro _ ⟨⟩
      exact unreported ending rfl
  | ok value => exact endsUnreported_ok _

theorem elementary_optionalPattern (text : String) :
    Elementary surroundings EndsUnreported (optionalPattern characters text) := by
  unfold optionalPattern
  split
  · exact .pure (endsUnreported_ok _)
  · refine (elementary_patternOf _ _ _).bind fun result unreported => ?_
    exact .pure (endsUnreported_map unreported _)

theorem elementary_split :
    Elementary surroundings Ending.Unreported (split characters given) := by
  unfold split
  refine (elementary_valueOf _).bind fun result unreported => ?_
  rcases result with ending | ⟨text⟩ | elements
  · exact .pure (unreported ending rfl)
  · refine (elementary_patternOf _ _ _).bind fun result unreported => ?_
    cases result with
    | error ending => exact .pure (unreported ending rfl)
    | ok pattern => exact elementary_store given _
  · exact elementary_fail _

theorem elementary_flatten : Elementary surroundings Ending.Unreported (flatten given) := by
  unfold flatten
  refine (elementary_valueOf _).bind fun result unreported => ?_
  rcases result with ending | ⟨text⟩ | elements
  · exact .pure (unreported ending rfl)
  · exact elementary_store given _
  · exact elementary_store given _

theorem elementary_changeOf (settings : Options.Settings) :
    Elementary surroundings EndsUnreported (changeOf characters settings) := by
  unfold changeOf
  dsimp only
  split
  · refine (elementary_patternOf _ _ _).bind fun result unreported => ?_
    exact .pure (endsUnreported_map unreported _)
  · exact .pure (endsUnreported_ok _)

theorem elementary_replace :
    Elementary surroundings Ending.Unreported (replace characters given) := by
  unfold replace
  refine (elementary_valueOf _).bind fun result unreported => ?_
  cases result with
  | error ending => exact .pure (unreported ending rfl)
  | ok value =>
      refine (elementary_changeOf _ _).bind fun result unreported => ?_
      cases result with
      | error ending => exact .pure (unreported ending rfl)
      | ok change => exact (Elementary.ofExcept _).bind fun _ _ => elementary_store given _

theorem elementary_replaceExtension :
    Elementary surroundings Ending.Unreported (replaceExtension given) :=
  elementary_store given _

/-! ## Files -/

theorem elementary_listEntries (command : Command) (directories : Bool) :
    Elementary surroundings Ending.Unreported
      (listEntries characters command directories given) := by
  unfold listEntries
  dsimp only
  refine .get (fun _ => rfl) fun state => ?_
  split
  · exact elementary_fail _
  · refine (elementary_optionalPattern _ _).bind fun result unreported => ?_
    cases result with
    | error ending => exact .pure (unreported ending rfl)
    | ok pattern =>
        refine .get (fun _ => rfl) fun state => ?_
        refine (Elementary.ofExcept _).bind fun found _ => ?_
        exact (Elementary.record _ _).bind fun _ _ => elementary_store given _

theorem elementary_readLines :
    Elementary surroundings Ending.Unreported (readLines characters given) := by
  unfold readLines
  dsimp only
  refine .get (fun _ => rfl) fun state => ?_
  split
  · exact elementary_fail _
  · refine (elementary_optionalPattern _ _).bind fun result unreported => ?_
    cases result with
    | error ending => exact .pure (unreported ending rfl)
    | ok pattern =>
        refine .get (fun _ => rfl) fun state => ?_
        split
        · exact elementary_fail _
        · exact elementary_store given _

theorem elementary_deleteDirectory :
    Elementary surroundings Ending.Unreported (deleteDirectory given) := by
  unfold deleteDirectory
  dsimp only
  refine .get (fun _ => rfl) fun state => ?_
  split
  · exact elementary_done
  · refine .get (fun _ => rfl) fun state => ?_
    split
    · exact elementary_fail _
    · refine .get (fun _ => rfl) fun state => ?_
      refine (Elementary.setFiles _).bind fun _ _ => ?_
      split
      · exact elementary_fail _
      · exact (Elementary.record _ _).bind fun _ _ => elementary_done

end Perform

/-! ## Programs -/

namespace Supervision

variable {surroundings : Surroundings}

theorem elementary_noteFailure (program : String) (failures : List Fault) (failure : Option Fault) :
    Elementary surroundings (fun _ => True) (noteFailure program failures failure) := by
  unfold noteFailure
  split
  · exact .pure trivial
  · dsimp only
    split
    · exact (Elementary.record _ _).bind fun _ _ => .pure trivial
    · exact .pure trivial

/-- Following a program is as elementary as what is done with its lines. -/
theorem elementary_follow {σ : Type} {handle : Handler σ}
    (handles : ∀ kept stdout text,
      Elementary surroundings (fun _ => True) (handle kept stdout text))
    (program : String) (activity : Host.Activity) (actions : List Host.Action) (kept : σ)
    (patience : Double) (failures : List Fault) :
    Elementary surroundings (fun _ => True)
      (follow program handle activity kept patience failures actions) := by
  fun_induction follow program handle activity kept patience failures actions with
  | case1 => exact .pure trivial
  | case2 kept patience failures stdout text rest induction =>
      refine (handles kept stdout text).bind fun result _ => ?_
      exact (elementary_noteFailure _ _ _).bind fun failures _ => induction _ _
  | case3 kept patience failures seconds heeds rest goesOn waits =>
      refine Elementary.isStopped.bind fun stopped _ => ?_
      split
      · exact goesOn
      · refine (Elementary.record _ _).bind fun _ _ => ?_
        split
        · exact .pure trivial
        · split
          · exact (Elementary.record _ _).bind fun _ _ => .pure trivial
          · exact waits

theorem elementary_run {σ : Type} (launch : Host.Launch)
    {handle : Handler σ}
    (handles : ∀ kept stdout text,
      Elementary surroundings (fun _ => True) (handle kept stdout text)) (kept : σ) :
    Elementary surroundings (fun _ => True) (run surroundings launch handle kept) := by
  unfold run
  refine (Elementary.record _ _).bind fun _ _ => ?_
  refine .get (fun _ => rfl) fun state => ?_
  refine (Elementary.ofExcept _).bind fun activity _ => ?_
  have ended : Elementary surroundings (fun _ => True) (do
      if ← Run.isStopped then
        Run.record .info s!"Terminating process {activity.identity}"
        return Outcome.signalled Host.terminationSignal []
      else
        Run.setFiles activity.files
        follow launch.program handle activity kept surroundings.killTimeout []
          activity.actions) := by
    refine Elementary.isStopped.bind fun stopped _ => ?_
    split
    · exact (Elementary.record _ _).bind fun _ _ => .pure trivial
    · exact (Elementary.setFiles _).bind fun _ _ => elementary_follow handles _ _ _ _ _ _
  refine ended.bind fun outcome _ => ?_
  exact (Elementary.record _ _).bind fun _ _ => .pure trivial

end Supervision

namespace Perform

variable {surroundings : Surroundings} (given : Given)

theorem elementary_filterLine (filters : List Filter) (stdout : Bool) (text : String) :
    Elementary surroundings (fun _ => True) (filterLine surroundings filters stdout text) := by
  unfold filterLine
  refine .get (fun _ => rfl) fun state => ?_
  refine (Elementary.setFiles _).bind fun _ _ => ?_
  split
  · exact .pure trivial
  · exact .pure trivial
  · exact (Elementary.print _ _).bind fun _ _ => .pure trivial

theorem unreported_endingOf (profile : Profile) (stopped : Bool) (outcome : Supervision.Outcome) :
    (endingOf profile stopped outcome).Unreported := by
  unfold endingOf
  split
  · simp [Ending.Unreported]
  · split
    · simp [Ending.Unreported]
    · split <;> simp [Ending.Unreported]

theorem elementary_run : Elementary surroundings Ending.Unreported (run surroundings given) := by
  unfold run
  split
  · exact .throw _
  · rename_i profile _
    dsimp only
    have handles : ∀ kept stdout text, Elementary surroundings (fun _ => True)
      (filterLine surroundings kept stdout text) := elementary_filterLine
    have followed := Supervision.elementary_run
      (launchOf surroundings profile given.arguments) handles given.filters
    refine followed.attempt.bind fun result _ => ?_
    cases result with
    | ok outcome =>
        refine Elementary.isStopped.bind fun stopped _ => ?_
        exact .pure (unreported_endingOf _ _ _)
    | error fault =>
        dsimp only
        split
        · exact elementary_fail _
        · exact .throw _

end Perform

end Runbook
