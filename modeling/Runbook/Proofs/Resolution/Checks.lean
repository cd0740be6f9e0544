import Mathlib.Data.List.Forall2
import Runbook.Proofs.Profiles.Lookup
import Runbook.Resolution

/-! # The checks of a line

What the tokens of a line ask for is found out in several steps, each of which looks at a part
of the line. The checks that they make come one after the other, and no token is left out or
read twice.
-/

namespace Runbook

/-! ## Filters -/

namespace Filter

variable (characters : Pattern.CharacterNames)

theorem steady_patternOf (kind : FilterKind) (text : String) :
    Logged.Steady (patternOf characters kind text) := by
  unfold patternOf
  split
  · exact .pure _
  · split
    · exact .pure _
    · exact .throw _

theorem steady_actionOf (files : Files.FileSystem) (kind : FilterKind)
    (settings : Options.Settings) : Logged.Steady (actionOf characters files kind settings) := by
  unfold actionOf
  cases kind with
  | grep => exact (steady_patternOf _ _ _).bind fun _ => .pure _
  | replace =>
      dsimp only
      split
      · exact (steady_patternOf _ _ _).bind fun _ => .pure _
      · exact .pure _
  | tee =>
      refine (Logged.Steady.ofExcept _).bind fun isDirectory => ?_
      split
      · exact .pure _
      · exact .pure _

/-- What a filter is configured to does not depend on what has been logged. -/
theorem steady_configure (files : Files.FileSystem) (tokens : List String) :
    Logged.Steady (configure characters files tokens) := by
  unfold configure
  split
  · exact .pure _
  · split
    · exact .pure _
    · split
      · exact .pure _
      · refine (steady_actionOf _ _ _ _).bind fun action => ?_
        split
        · exact .pure _
        · exact .record _ _ (.pure _)

end Filter

namespace Resolution

variable {characters : Pattern.CharacterNames} {profiles : Profiles} {files : Files.FileSystem}
  {inScript : Bool} {command : Command}

/-! ## Runs of tokens -/

/-- The tokens between pipes and behind the last one, without those places where there are none. -/
def runs (tokens : List String) : List (List String) :=
  (tokens.splitOn pipe).tail.filter (· ≠ [])

theorem splitOn_cons_pipe (tokens : List String) :
    (pipe :: tokens).splitOn pipe = [] :: tokens.splitOn pipe := by
  rw [List.splitOn_cons_eq_if_modifyHead, if_pos (beq_self_eq_true _)]

theorem splitOn_cons_of_ne {token : String} (different : token ≠ pipe) (tokens : List String) :
    (token :: tokens).splitOn pipe = (tokens.splitOn pipe).modifyHead (token :: ·) := by
  rw [List.splitOn_cons_eq_if_modifyHead, if_neg (by simpa using different)]

theorem ownOptions_cons_of_ne {token : String} (different : token ≠ pipe) (tokens : List String) :
    ownOptions (token :: tokens) = token :: ownOptions tokens := by
  simp [ownOptions, different]

theorem splitOn_eq_cons (tokens : List String) :
    tokens.splitOn pipe = ownOptions tokens :: (tokens.splitOn pipe).tail := by
  induction tokens with
  | nil => rfl
  | cons token tokens induction =>
      by_cases same : token = pipe
      · rw [same, splitOn_cons_pipe]
        rfl
      · rw [splitOn_cons_of_ne same, induction, ownOptions_cons_of_ne same]
        rfl

theorem tail_splitOn_cons_of_ne {token : String} (different : token ≠ pipe)
    (tokens : List String) :
    ((token :: tokens).splitOn pipe).tail = (tokens.splitOn pipe).tail := by
  rw [splitOn_cons_of_ne different, splitOn_eq_cons tokens]
  rfl

theorem runs_cons_pipe (tokens : List String) :
    runs (pipe :: tokens) = (tokens.splitOn pipe).filter (· ≠ []) := by
  rw [runs, splitOn_cons_pipe, List.tail_cons]

theorem runs_cons_of_ne {token : String} (different : token ≠ pipe) (tokens : List String) :
    runs (token :: tokens) = runs tokens := by
  rw [runs, tail_splitOn_cons_of_ne different, runs]

/-- The run that has been begun goes on up to the next pipe. -/
theorem segments_eq (current tokens : List String) :
    segments current tokens =
      ((current.reverse ++ ownOptions tokens) :: (tokens.splitOn pipe).tail).filter (· ≠ []) := by
  fun_induction segments current tokens with
  | case1 current empty => simp_all [ownOptions]
  | case2 current nonempty => simp_all [ownOptions]
  | case3 current token rest same empty induction =>
      rw [eq_of_beq same, List.isEmpty_iff.mp empty, induction, splitOn_cons_pipe, List.tail_cons,
        splitOn_eq_cons rest]
      simp [ownOptions]
  | case4 current token rest same nonempty induction =>
      rw [eq_of_beq same, induction, splitOn_cons_pipe, List.tail_cons, splitOn_eq_cons rest]
      simp_all [ownOptions]
  | case5 current token rest different induction =>
      have different : token ≠ pipe := by simpa using different
      rw [induction, ownOptions_cons_of_ne different, tail_splitOn_cons_of_ne different]
      simp

theorem filterTokens_eq (tokens : List String) : filterTokens tokens = runs tokens := by
  induction tokens with
  | nil => rfl
  | cons token tokens induction =>
      by_cases same : token = pipe
      · subst same
        rw [runs_cons_pipe, splitOn_eq_cons, filterTokens]
        simpa using segments_eq [] tokens
      · rw [runs_cons_of_ne same, ← induction, filterTokens, filterTokens]
        simp [same]

/-- The tokens of a line are those in front of the first pipe and those in the runs behind it. -/
theorem filter_ne_pipe (tokens : List String) :
    tokens.filter (· ≠ pipe) = ownOptions tokens ++ (runs tokens).flatten := by
  induction tokens with
  | nil => rfl
  | cons token tokens induction =>
      by_cases same : token = pipe
      · subst same
        rw [runs, List.flatten_filter_ne_nil] at induction
        rw [runs_cons_pipe, List.flatten_filter_ne_nil, splitOn_eq_cons, List.flatten_cons,
          ← induction]
        simp [ownOptions]
      · rw [runs_cons_of_ne same, ownOptions_cons_of_ne same, List.cons_append, ← induction]
        simp [same]

/-! ## What a line comes to -/

/-- A run of tokens configures a filter. -/
def Configures (characters : Pattern.CharacterNames) (files : Files.FileSystem)
    (run : List String) (filter : Filter) : Prop :=
  (Filter.configure characters files run).outcome.1 = .ok (.ok filter)

instance decidableConfigures (characters : Pattern.CharacterNames) (files : Files.FileSystem)
    (run : List String) : Decidable (∃ filter, Configures characters files run filter) :=
  match configured : (Filter.configure characters files run).outcome.1 with
  | .ok (.ok filter) => isTrue ⟨filter, configured⟩
  | .ok (.error error) => isFalse (by simp [Configures, configured])
  | .error fault => isFalse (by simp [Configures, configured])

/-- How a command that needs a profile takes it from the tokens behind it. A command that needs
none takes no token. -/
inductive Equips (profiles : Profiles) (files : Files.FileSystem) (command : Command) :
    (tokens : List String) → (taken : Option String) → (profile : Option Profile) →
      (options : List String) → Prop
  | unneeded {options : List String} (needless : command.needsProfile = false) :
      Equips profiles files command options none none options
  | found {name : String} {profile : Profile} {options : List String}
      (needs : command.needsProfile = true) (proper : name ≠ pipe)
      (found : (profiles.resolve files name).outcome.1 = .ok (some profile)) :
      Equips profiles files command (name :: options) (some name) (some profile) options

/-- What the tokens behind a command ask for. There is one case for each check that can fail, in
the order in which the checks are made: a line that one of them fails for has passed all before. -/
inductive Asks (characters : Pattern.CharacterNames) (profiles : Profiles)
    (files : Files.FileSystem) (command : Command) : (tokens : List String) → Resolution → Prop
  | help {tokens : List String} (asked : helpOption ∈ ownOptions tokens) :
      Asks characters profiles files command tokens (.help command)
  | unequipped {tokens : List String} (unasked : helpOption ∉ ownOptions tokens)
      (needs : command.needsProfile = true) (missing : tokens = [] ∨ tokens.head? = some pipe) :
      Asks characters profiles files command tokens (.refused (.missingProfile command.name))
  | unfound {name : String} {tokens : List String}
      (unasked : helpOption ∉ ownOptions (name :: tokens))
      (needs : command.needsProfile = true) (proper : name ≠ pipe)
      (unfound : (profiles.resolve files name).outcome.1 = .ok none) :
      Asks characters profiles files command (name :: tokens) (.refused (.unknownProfile name))
  | unsupported {tokens options : List String} {taken : Option String} {profile : Option Profile}
      (unasked : helpOption ∉ ownOptions tokens)
      (equips : Equips profiles files command tokens taken profile options)
      (filtered : runs options ≠ []) (unsupported : command.takesFilters = false) :
      Asks characters profiles files command tokens (.refused
        (.misplaced (some s!"Command '{command.name}' does not support filters!")))
  | misfit {tokens options : List String} {taken : Option String} {profile : Option Profile}
      {before after : List (List String)} {run : List String} {filters : List Filter}
      {error : ScriptError} (unasked : helpOption ∉ ownOptions tokens)
      (equips : Equips profiles files command tokens taken profile options)
      (supported : command.takesFilters = true) (shape : runs options = before ++ run :: after)
      (earlier : before.Forall₂ (Configures characters files) filters)
      (misfits : (Filter.configure characters files run).outcome.1 = .ok (.error error)) :
      Asks characters profiles files command tokens (.refused error)
  | ready {tokens options : List String} {taken : Option String} {profile : Option Profile}
      {filters : List Filter} (unasked : helpOption ∉ ownOptions tokens)
      (equips : Equips profiles files command tokens taken profile options)
      (supported : runs options = [] ∨ command.takesFilters = true)
      (configured : (runs options).Forall₂ (Configures characters files) filters) :
      Asks characters profiles files command tokens
        (.ready ⟨command, profile, filters, ownOptions options⟩)

/-- How the tokens behind a command keep anyone from finding out what they ask for: the lookup of
a profile ends in a fault, or the configuration of the first filter that is not configured does. -/
inductive Upsets (characters : Pattern.CharacterNames) (profiles : Profiles)
    (files : Files.FileSystem) (command : Command) : (tokens : List String) → Fault → Prop
  | profile {name : String} {tokens : List String} {fault : Fault}
      (unasked : helpOption ∉ ownOptions (name :: tokens))
      (needs : command.needsProfile = true) (proper : name ≠ pipe)
      (failed : (profiles.resolve files name).outcome.1 = .error fault) :
      Upsets characters profiles files command (name :: tokens) fault
  | filter {tokens options : List String} {taken : Option String} {profile : Option Profile}
      {before after : List (List String)} {run : List String} {filters : List Filter}
      {fault : Fault} (unasked : helpOption ∉ ownOptions tokens)
      (equips : Equips profiles files command tokens taken profile options)
      (supported : command.takesFilters = true) (shape : runs options = before ++ run :: after)
      (earlier : before.Forall₂ (Configures characters files) filters)
      (failed : (Filter.configure characters files run).outcome.1 = .error fault) :
      Upsets characters profiles files command tokens fault

/-- What a line asks for. The checks of its command come before all others. -/
inductive Resolves (characters : Pattern.CharacterNames) (profiles : Profiles)
    (files : Files.FileSystem) (inScript : Bool) : (tokens : List String) → Resolution → Prop
  | empty : Resolves characters profiles files inScript []
      (.refused (.misplaced (some "Expected command, found empty line!")))
  | unknown {name : String} {tokens : List String}
      (unknown : Command.find? inScript name = none) :
      Resolves characters profiles files inScript (name :: tokens) (.refused (.unknownCommand name))
  | known {name : String} {command : Command} {tokens : List String} {resolution : Resolution}
      (known : Command.find? inScript name = some command)
      (asks : Asks characters profiles files command tokens resolution) :
      Resolves characters profiles files inScript (name :: tokens) resolution

/-! ## The checks -/

theorem Configures.ends {run : List String} {filter : Filter}
    (configures : Configures characters files run filter) :
    Logged.Ends (Filter.configure characters files run) (.ok (.ok filter)) := by
  have steady := Filter.steady_configure characters files run
  rwa [Logged.Steady, configures] at steady

theorem exists_configured_iff {runs : List (List String)} :
    (∃ filters, runs.Forall₂ (Configures characters files) filters) ↔
      ∀ run ∈ runs, ∃ filter, Configures characters files run filter := by
  induction runs with
  | nil => simp
  | cons run runs induction =>
      simp only [List.forall₂_cons_left_iff, List.forall_mem_cons, ← induction]
      constructor
      · rintro ⟨_, filter, filters, first, rest, -⟩
        exact ⟨⟨filter, first⟩, filters, rest⟩
      · rintro ⟨⟨filter, first⟩, filters, rest⟩
        exact ⟨_, filter, filters, first, rest, rfl⟩

theorem ends_configureAll {runs : List (List String)} {filters : List Filter}
    (configured : runs.Forall₂ (Configures characters files) filters) :
    Logged.Ends (configureAll characters files runs) (.ok (.ok filters)) := by
  induction configured with
  | nil => exact .pure _
  | cons first rest induction => exact first.ends.bind_of_ok (induction.bind_of_ok (.pure _))

/-- Filters are configured up to the first that cannot be. -/
theorem ends_configureAll_of_error {before after : List (List String)} {run : List String}
    {filters : List Filter} {error : ScriptError}
    (earlier : before.Forall₂ (Configures characters files) filters)
    (misfits : (Filter.configure characters files run).outcome.1 = .ok (.error error)) :
    Logged.Ends (configureAll characters files (before ++ run :: after)) (.ok (.error error)) := by
  induction earlier with
  | nil =>
      have ends := Filter.steady_configure characters files run
      rw [Logged.Steady, misfits] at ends
      exact ends.bind_of_ok (.pure _)
  | cons first rest induction => exact first.ends.bind_of_ok (induction.bind_of_ok (.pure _))

section TakeProfile

variable {name : String} {tokens options : List String} {taken : Option String}
  {profile : Option Profile}

theorem takeProfile_of_named (needs : command.needsProfile = true) (proper : name ≠ pipe) :
    takeProfile profiles files command (name :: tokens) = (do
      match ← profiles.resolve files name with
      | none => return .error (.unknownProfile name)
      | some profile => return .ok (some profile, tokens)) := by
  unfold takeProfile
  rw [if_neg (by simp [needs])]
  exact if_neg (by simpa using proper)

theorem Equips.ends (equips : Equips profiles files command tokens taken profile options) :
    Logged.Ends (takeProfile profiles files command tokens) (.ok (.ok (profile, options))) := by
  cases equips with
  | unneeded needless =>
      simp only [takeProfile, needless]
      exact .pure _
  | @found name _ _ needs proper found =>
      have ends := Profiles.steady_resolve profiles files name
      rw [Logged.Steady, found] at ends
      rw [takeProfile_of_named needs proper]
      exact ends.bind_of_ok (.pure _)

theorem ends_takeProfile_of_missing (needs : command.needsProfile = true)
    (missing : tokens = [] ∨ tokens.head? = some pipe) :
    Logged.Ends (takeProfile profiles files command tokens)
      (.ok (.error (.missingProfile command.name))) := by
  cases tokens with
  | nil =>
      simp only [takeProfile, needs]
      exact .pure _
  | cons name tokens =>
      have same : name = pipe := by simpa using missing
      simp only [takeProfile, needs, same]
      exact .pure _

theorem ends_takeProfile_of_unfound (needs : command.needsProfile = true) (proper : name ≠ pipe)
    (unfound : (profiles.resolve files name).outcome.1 = .ok none) :
    Logged.Ends (takeProfile profiles files command (name :: tokens))
      (.ok (.error (.unknownProfile name))) := by
  have ends := Profiles.steady_resolve profiles files name
  rw [Logged.Steady, unfound] at ends
  rw [takeProfile_of_named needs proper]
  exact ends.bind_of_ok (.pure _)

end TakeProfile

section FiltersFor

variable {options : List String}

theorem filtersFor_eq (characters : Pattern.CharacterNames) (files : Files.FileSystem)
    (command : Command) (options : List String) :
    filtersFor characters files command options =
      if runs options = [] then return .ok []
      else if command.takesFilters = false then
        return .error (.misplaced (some s!"Command '{command.name}' does not support filters!"))
      else configureAll characters files (runs options) := by
  simp [filtersFor, filterTokens_eq]

theorem ends_filtersFor {filters : List Filter}
    (supported : runs options = [] ∨ command.takesFilters = true)
    (configured : (runs options).Forall₂ (Configures characters files) filters) :
    Logged.Ends (filtersFor characters files command options) (.ok (.ok filters)) := by
  rw [filtersFor_eq]
  by_cases none : runs options = []
  · rw [none] at configured
    cases configured
    rw [if_pos none]
    exact .pure _
  · rw [if_neg none, if_neg (by simp [supported.resolve_left none])]
    exact ends_configureAll configured

theorem ends_filtersFor_of_unsupported (filtered : runs options ≠ [])
    (unsupported : command.takesFilters = false) :
    Logged.Ends (filtersFor characters files command options) (.ok (.error
      (.misplaced (some s!"Command '{command.name}' does not support filters!")))) := by
  rw [filtersFor_eq, if_neg filtered, if_pos unsupported]
  exact .pure _

theorem ends_filtersFor_of_error {before after : List (List String)} {run : List String}
    {filters : List Filter} {error : ScriptError} (supported : command.takesFilters = true)
    (shape : runs options = before ++ run :: after)
    (earlier : before.Forall₂ (Configures characters files) filters)
    (misfits : (Filter.configure characters files run).outcome.1 = .ok (.error error)) :
    Logged.Ends (filtersFor characters files command options) (.ok (.error error)) := by
  rw [filtersFor_eq, if_neg (by simp [shape]), if_neg (by simp [supported]), shape]
  exact ends_configureAll_of_error earlier misfits

end FiltersFor

theorem Asks.ends {tokens : List String} {resolution : Resolution}
    (asks : Asks characters profiles files command tokens resolution) :
    Logged.Ends (ofCommand characters profiles files command tokens) (.ok resolution) := by
  unfold ofCommand
  cases asks with
  | help asked =>
      rw [if_pos (List.contains_iff_mem.mpr asked)]
      exact .pure _
  | unequipped unasked needs missing =>
      rw [if_neg (by simpa using unasked)]
      exact (ends_takeProfile_of_missing needs missing).bind_of_ok (.pure _)
  | unfound unasked needs proper unfound =>
      rw [if_neg (by simpa using unasked)]
      exact (ends_takeProfile_of_unfound needs proper unfound).bind_of_ok (.pure _)
  | unsupported unasked equips filtered unsupported =>
      rw [if_neg (by simpa using unasked)]
      refine equips.ends.bind_of_ok ?_
      exact (ends_filtersFor_of_unsupported filtered unsupported).bind_of_ok (.pure _)
  | misfit unasked equips supported shape earlier misfits =>
      rw [if_neg (by simpa using unasked)]
      refine equips.ends.bind_of_ok ?_
      exact (ends_filtersFor_of_error supported shape earlier misfits).bind_of_ok (.pure _)
  | ready unasked equips supported configured =>
      rw [if_neg (by simpa using unasked)]
      refine equips.ends.bind_of_ok ?_
      exact (ends_filtersFor supported configured).bind_of_ok (.record _ _ (.pure _))

theorem Resolves.ends {tokens : List String} {resolution : Resolution}
    (resolves : Resolves characters profiles files inScript tokens resolution) :
    Logged.Ends (ofTokens characters profiles files inScript tokens) (.ok resolution) := by
  cases resolves with
  | empty => exact .pure _
  | unknown unknown =>
      rw [ofTokens, unknown]
      exact .pure _
  | known known asks =>
      rw [ofTokens, known]
      exact asks.ends

/-- Tokens that ask neither for filters nor for help are the options of their command. -/
theorem ofTokens_ready {name : String} {options : List String}
    (known : Command.find? inScript name = some command)
    (unprofiled : command.needsProfile = false)
    (unpiped : pipe ∉ options) (unasked : helpOption ∉ options) :
    (ofTokens characters profiles files inScript (name :: options)).outcome.1 =
      .ok (.ready ⟨command, none, [], options⟩) := by
  have single := List.splitOn_eq_singleton unpiped
  have own : ownOptions options = options :=
    List.head_eq_of_cons_eq ((splitOn_eq_cons options).symm.trans single)
  have unfiltered : runs options = [] := by
    rw [runs, single]
    rfl
  have configured : (runs options).Forall₂ (Configures characters files) [] := by
    rw [unfiltered]
    exact .nil
  have asks : Asks characters profiles files command options
      (.ready ⟨command, none, [], ownOptions options⟩) :=
    .ready (by rwa [own]) (.unneeded unprofiled) (.inl unfiltered) configured
  rw [own] at asks
  exact (Resolves.known known asks).ends.outcome

/-! ## Every line -/

section Total

variable {tokens options : List String}

/-- Either all runs configure filters, or there is a first that does not. -/
theorem configured_or_first (characters : Pattern.CharacterNames) (files : Files.FileSystem)
    (runs : List (List String)) :
    (∃ filters, runs.Forall₂ (Configures characters files) filters) ∨
      ∃ before run after filters, runs = before ++ run :: after ∧
        before.Forall₂ (Configures characters files) filters ∧
          ∀ filter, ¬Configures characters files run filter := by
  induction runs with
  | nil => exact .inl ⟨[], .nil⟩
  | cons run runs induction =>
      by_cases first : ∃ filter, Configures characters files run filter
      · rcases first with ⟨filter, first⟩
        rcases induction with
          ⟨filters, configured⟩ | ⟨before, other, after, filters, rfl, earlier, misfits⟩
        · exact .inl ⟨filter :: filters, .cons first configured⟩
        · exact .inr ⟨run :: before, other, after, filter :: filters, rfl, .cons first earlier,
            misfits⟩
      · exact .inr ⟨[], run, runs, [], rfl, .nil, not_exists.mp first⟩

theorem runs_eq_of_equips {taken : Option String} {profile : Option Profile}
    (equips : Equips profiles files command tokens taken profile options) :
    runs tokens = runs options := by
  cases equips with
  | unneeded => rfl
  | found needs proper => exact runs_cons_of_ne proper _

theorem asks_or_upsets_of_equips {taken : Option String} {profile : Option Profile}
    (unasked : helpOption ∉ ownOptions tokens)
    (equips : Equips profiles files command tokens taken profile options) :
    (∃ resolution, Asks characters profiles files command tokens resolution) ∨
      ∃ fault, Upsets characters profiles files command tokens fault := by
  by_cases none : runs options = []
  · have configured : (runs options).Forall₂ (Configures characters files) [] := by
      rw [none]
      exact .nil
    exact .inl ⟨_, .ready unasked equips (.inl none) configured⟩
  cases supported : command.takesFilters with
  | false => exact .inl ⟨_, .unsupported unasked equips none supported⟩
  | true =>
      rcases configured_or_first characters files (runs options) with
        ⟨filters, configured⟩ | ⟨before, run, after, filters, shape, earlier, misfits⟩
      · exact .inl ⟨_, .ready unasked equips (.inr supported) configured⟩
      · match reached : (Filter.configure characters files run).outcome.1 with
        | .ok (.ok filter) => exact absurd reached (misfits filter)
        | .ok (.error error) =>
            exact .inl ⟨_, .misfit unasked equips supported shape earlier reached⟩
        | .error fault => exact .inr ⟨fault, .filter unasked equips supported shape earlier reached⟩

theorem asks_or_upsets (characters : Pattern.CharacterNames) (profiles : Profiles)
    (files : Files.FileSystem) (command : Command) (tokens : List String) :
    (∃ resolution, Asks characters profiles files command tokens resolution) ∨
      ∃ fault, Upsets characters profiles files command tokens fault := by
  by_cases asked : helpOption ∈ ownOptions tokens
  · exact .inl ⟨_, .help asked⟩
  cases needs : command.needsProfile with
  | false => exact asks_or_upsets_of_equips asked (.unneeded needs)
  | true =>
      cases tokens with
      | nil => exact .inl ⟨_, .unequipped asked needs (.inl rfl)⟩
      | cons name tokens =>
          by_cases piped : name = pipe
          · exact .inl ⟨_, .unequipped asked needs (.inr (by simp [piped]))⟩
          · match found : (profiles.resolve files name).outcome.1 with
            | .ok none => exact .inl ⟨_, .unfound asked needs piped found⟩
            | .ok (some profile) =>
                exact asks_or_upsets_of_equips asked (.found needs piped found)
            | .error fault => exact .inr ⟨fault, .profile asked needs piped found⟩

theorem find?_pipe (inScript : Bool) : Command.find? inScript pipe = none := by
  cases inScript <;> decide

theorem ne_pipe_of_find? {name : String} (known : Command.find? inScript name = some command) :
    name ≠ pipe := by
  rintro rfl
  rw [find?_pipe] at known
  cases known

/-- What a line asks for can be found out unless a profile or a filter brings this to a fault. -/
theorem resolves_or_upsets (characters : Pattern.CharacterNames) (profiles : Profiles)
    (files : Files.FileSystem) (inScript : Bool) (tokens : List String) :
    (∃ resolution, Resolves characters profiles files inScript tokens resolution) ∨
      ∃ name behind command fault, tokens = name :: behind ∧
        Command.find? inScript name = some command ∧
          Upsets characters profiles files command behind fault := by
  cases tokens with
  | nil => exact .inl ⟨_, .empty⟩
  | cons name behind =>
      cases known : Command.find? inScript name with
      | none => exact .inl ⟨_, .unknown known⟩
      | some command =>
          rcases asks_or_upsets characters profiles files command behind with
            ⟨_, asks⟩ | ⟨fault, upsets⟩
          · exact .inl ⟨_, .known known asks⟩
          · exact .inr ⟨name, behind, command, fault, rfl, known, upsets⟩

theorem exists_resolves (inScript : Bool)
    (looksUp : ∀ name ∈ tokens, ∃ found, (profiles.resolve files name).outcome.1 = .ok found)
    (configures : ∀ run ∈ runs tokens, ∃ result,
      (Filter.configure characters files run).outcome.1 = .ok result) :
    ∃ resolution, Resolves characters profiles files inScript tokens resolution := by
  rcases resolves_or_upsets characters profiles files inScript tokens with
    resolves | ⟨name, behind, command, fault, rfl, known, upsets⟩
  · exact resolves
  rw [runs_cons_of_ne (ne_pipe_of_find? known)] at configures
  cases upsets with
  | profile unasked needs proper failed =>
      rcases looksUp _ (List.mem_cons_of_mem _ List.mem_cons_self) with ⟨found, returned⟩
      rw [failed] at returned
      cases returned
  | filter unasked equips supported shape earlier failed =>
      rw [runs_eq_of_equips equips, shape] at configures
      rcases configures _ (List.mem_append_right _ List.mem_cons_self) with ⟨result, returned⟩
      rw [failed] at returned
      cases returned

end Total

theorem Equips.tokens_eq {tokens options : List String} {taken : Option String}
    {profile : Option Profile}
    (equips : Equips profiles files command tokens taken profile options) :
    tokens = taken.toList ++ options := by
  cases equips <;> rfl

theorem Equips.isSome_taken {tokens options : List String} {taken : Option String}
    {profile : Option Profile}
    (equips : Equips profiles files command tokens taken profile options) :
    taken.isSome = command.needsProfile := by
  cases equips with
  | unneeded needless => rw [needless, Option.isSome_none]
  | found needs => rw [needs, Option.isSome_some]

theorem Equips.ownOptions_eq {tokens options : List String} {taken : Option String}
    {profile : Option Profile}
    (equips : Equips profiles files command tokens taken profile options) :
    ownOptions tokens = taken.toList ++ ownOptions options := by
  cases equips with
  | unneeded => rfl
  | found needs proper => exact ownOptions_cons_of_ne proper _

/-- What the tokens of a line are used for: the name of a command, the name of a profile if the
command needs one, the options of the command, and the filters. -/
theorem exists_shares_of_ready {tokens : List String} {setup : Setup}
    (resolves : Resolves characters profiles files inScript tokens (.ready setup)) :
    ∃ name taken options, tokens = name :: (taken.toList ++ options) ∧
      Command.find? inScript name = some setup.command ∧
        Equips profiles files setup.command (taken.toList ++ options) taken setup.profile options ∧
          ownOptions tokens = name :: (taken.toList ++ setup.options) ∧
            (runs tokens).Forall₂ (Configures characters files) setup.filters ∧
              tokens.filter (· ≠ pipe) =
                name :: (taken.toList ++ setup.options ++ (runs tokens).flatten) := by
  cases resolves with
  | @known name command tokens _ known asks =>
      cases asks with
      | @ready _ options taken profile filters unasked equips supported configured =>
          have proper := ne_pipe_of_find? known
          have own : ownOptions (name :: tokens) = name :: (taken.toList ++ ownOptions options) := by
            rw [ownOptions_cons_of_ne proper, equips.ownOptions_eq]
          refine ⟨name, taken, options, congrArg _ equips.tokens_eq, known, ?_, own, ?_, ?_⟩
          · exact equips.tokens_eq ▸ equips
          · rwa [runs_cons_of_ne proper, runs_eq_of_equips equips]
          · rw [filter_ne_pipe, own, List.cons_append]

/-- When a line is ready to be run. -/
theorem exists_ready_iff {tokens : List String} :
    (∃ setup, Resolves characters profiles files inScript tokens (.ready setup)) ↔
      ∃ name behind command, tokens = name :: behind ∧
        Command.find? inScript name = some command ∧ helpOption ∉ ownOptions behind ∧
          (command.needsProfile = true → ∃ given rest profile, behind = given :: rest ∧
            given ≠ pipe ∧ (profiles.resolve files given).outcome.1 = .ok (some profile)) ∧
            (runs tokens = [] ∨ command.takesFilters = true ∧
              ∀ run ∈ runs tokens, ∃ filter, Configures characters files run filter) := by
  constructor
  · rintro ⟨setup, resolves⟩
    cases resolves with
    | @known name command tokens _ known asks =>
        cases asks with
        | @ready _ options taken profile filters unasked equips supported configured =>
            refine ⟨name, tokens, command, rfl, known, unasked, fun needs => ?_, ?_⟩
            · cases equips with
              | unneeded needless => cases needs.symm.trans needless
              | found _ proper found => exact ⟨_, _, _, rfl, proper, found⟩
            · rw [runs_cons_of_ne (ne_pipe_of_find? known), runs_eq_of_equips equips]
              exact supported.imp_right fun takes =>
                ⟨takes, exists_configured_iff.mp ⟨filters, configured⟩⟩
  · rintro ⟨name, behind, command, rfl, known, unasked, needed, filtered⟩
    rw [runs_cons_of_ne (ne_pipe_of_find? known)] at filtered
    have ready {taken : Option String} {profile : Option Profile} {options : List String}
        (equips : Equips profiles files command behind taken profile options) :
        ∃ setup, Resolves characters profiles files inScript (name :: behind) (.ready setup) := by
      rw [runs_eq_of_equips equips] at filtered
      have configures : ∀ run ∈ runs options, ∃ filter, Configures characters files run filter := by
        rcases filtered with none | ⟨-, configures⟩
        · simp [none]
        · exact configures
      rcases exists_configured_iff.mpr configures with ⟨filters, configured⟩
      exact ⟨_, .known known (.ready unasked equips (filtered.imp_right And.left) configured)⟩
    cases needs : command.needsProfile with
    | false => exact ready (.unneeded needs)
    | true =>
        rcases needed needs with ⟨given, rest, profile, rfl, proper, found⟩
        exact ready (.found needs proper found)

/-- The checks that are made of a line, if no profile and no filter makes one of them fail to
end. A line is ready if it passes all of them, and then each of its tokens is used once. Otherwise
the first check that it does not pass decides what it comes to. -/
theorem ofTokens_checks {tokens : List String}
    (looksUp : ∀ name ∈ tokens, ∃ found, (profiles.resolve files name).outcome.1 = .ok found)
    (configures : ∀ run ∈ runs tokens, ∃ result,
      (Filter.configure characters files run).outcome.1 = .ok result) :
    (∃ resolution,
        (ofTokens characters profiles files inScript tokens).outcome.1 = .ok resolution) ∧
      (∀ resolution,
        (ofTokens characters profiles files inScript tokens).outcome.1 = .ok resolution ↔
          Resolves characters profiles files inScript tokens resolution) ∧
      ((∃ setup,
          (ofTokens characters profiles files inScript tokens).outcome.1 = .ok (.ready setup)) ↔
        ∃ name behind command, tokens = name :: behind ∧
          Command.find? inScript name = some command ∧ helpOption ∉ ownOptions behind ∧
            (command.needsProfile = true → ∃ given rest profile, behind = given :: rest ∧
              given ≠ pipe ∧ (profiles.resolve files given).outcome.1 = .ok (some profile)) ∧
              (runs tokens = [] ∨ command.takesFilters = true ∧
                ∀ run ∈ runs tokens, ∃ filter, Configures characters files run filter)) ∧
      ∀ setup, (ofTokens characters profiles files inScript tokens).outcome.1 = .ok (.ready setup) →
        ∃ name taken options, tokens = name :: (taken.toList ++ options) ∧
          Command.find? inScript name = some setup.command ∧
            Equips profiles files setup.command (taken.toList ++ options) taken setup.profile
                options ∧
              ownOptions tokens = name :: (taken.toList ++ setup.options) ∧
                (runs tokens).Forall₂ (Configures characters files) setup.filters ∧
                  tokens.filter (· ≠ pipe) =
                    name :: (taken.toList ++ setup.options ++ (runs tokens).flatten) := by
  rcases exists_resolves inScript looksUp configures with ⟨resolution, resolves⟩
  have returned (other : Resolution) :
      (ofTokens characters profiles files inScript tokens).outcome.1 = .ok other ↔
        Resolves characters profiles files inScript tokens other := by
    refine ⟨fun ended => ?_, fun other => other.ends.outcome⟩
    cases resolves.ends.outcome.symm.trans ended
    exact resolves
  refine ⟨⟨resolution, (returned _).mpr resolves⟩, returned, ?_,
    fun setup ended => exists_shares_of_ready ((returned _).mp ended)⟩
  simp only [returned]
  exact exists_ready_iff

/-- A line with empty places between pipes and behind the last one. -/
def pipedLine : List String :=
  ["run", "e", "-c", "x", "|", "grep", "--regexp", "a", "|", "|", "tee", "--output", "f", "|"]

theorem ofTokens_checks_piped :
    ∃ setup, (ofTokens (fun _ => none) (.listed [⟨"e", "/bin/e", [], [], none⟩])
        ⟨.emptyDirectory, []⟩ true pipedLine).outcome.1 = .ok (.ready setup) ∧
      setup.options = ["-c", "x"] ∧ setup.filters.length = 2 := by
  have configured : ∀ run ∈ runs pipedLine,
      ∃ filter, Configures (fun _ => none) ⟨.emptyDirectory, []⟩ run filter := by
    decide +kernel
  have checks := @ofTokens_checks (fun _ => none) (.listed [⟨"e", "/bin/e", [], [], none⟩])
    ⟨.emptyDirectory, []⟩ true pipedLine (fun name _ => ⟨_, rfl⟩)
    (fun run member => (configured run member).imp' Except.ok fun _ => id)
  rcases checks.2.2.1.mpr ⟨"run", _, .run, rfl, by decide, by decide,
    fun _ => ⟨"e", _, _, rfl, by decide, rfl⟩, .inr ⟨rfl, configured⟩⟩ with ⟨setup, ready⟩
  rcases checks.2.2.2 setup ready with ⟨name, taken, options, -, known, equips, own, filters, -⟩
  refine ⟨setup, ready, ?_, filters.length_eq.symm.trans (by decide)⟩
  have shares : ["run", "e", "-c", "x"] = name :: (taken.toList ++ setup.options) := own
  obtain ⟨rfl, behind⟩ := List.cons.inj shares
  have command : setup.command = .run := (Option.some.inj known).symm
  have needs := equips.isSome_taken
  rw [command] at needs
  rcases Option.isSome_iff_exists.mp needs with ⟨given, rfl⟩
  exact (List.cons.inj behind).2.symm

end Resolution

end Runbook
