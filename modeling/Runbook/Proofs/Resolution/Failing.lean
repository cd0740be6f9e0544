import Runbook.Proofs.Files.Descending
import Runbook.Proofs.Pattern.Refusing
import Runbook.Proofs.Resolution.Checks

/-! # Lines whose resolution ends in a fault

What is wrong with a line is told by an error of the line. There are options of filters that
are not told about in this way: a pattern can be refused for another reason than an error in it,
and a path can be too long or lead into a closed directory. They end the resolution of their
line in a fault.
-/

namespace Runbook

namespace Filter

variable {characters : Pattern.CharacterNames} {files : Files.FileSystem}
  {settings : Options.Settings} {kind : FilterKind}

/-- A text is refused as a pattern, but not for an error in the pattern itself. -/
def IsRefusedOtherwise (characters : Pattern.CharacterNames) (text : String)
    (error : Pattern.Error) : Prop :=
  Pattern.ofText characters text = .error error ∧ error.fault.kind ≠ .pattern

/-- How the options of a filter bring its configuration to a fault. -/
inductive Upsets (characters : Pattern.CharacterNames) (files : Files.FileSystem)
    (settings : Options.Settings) : FilterKind → Fault → Prop
  | keep {error : Pattern.Error}
      (refused : IsRefusedOtherwise characters (settings.text "regexp") error) :
      Upsets characters files settings .grep (.pattern error)
  | rewrite {error : Pattern.Error} (chosen : settings.isOn "regexp" = true)
      (refused : IsRefusedOtherwise characters (settings.text "find") error) :
      Upsets characters files settings .replace (.pattern error)
  | copy {path : String} {problem : Files.Fault}
      (given : path = Files.Path.tidy (settings.text "output"))
      (blocked : files.Blocked path problem) :
      Upsets characters files settings .tee (.files (.at problem path))

theorem ends_patternOf_of_refused (kind : FilterKind) {text : String} {error : Pattern.Error}
    (refused : IsRefusedOtherwise characters text error) :
    Logged.Ends (patternOf characters kind text) (.error (.pattern error)) := by
  rw [patternOf, refused.1]
  dsimp only
  rw [if_neg (by simpa using refused.2)]
  exact .throw _

theorem patternOf_returns (kind : FilterKind) {text : String}
    (allowed : ∀ error, ¬IsRefusedOtherwise characters text error) :
    ∃ result, Logged.Ends (patternOf characters kind text) (.ok result) := by
  unfold patternOf
  cases read : Pattern.ofText characters text with
  | ok pattern => exact ⟨_, .pure _⟩
  | error error =>
      have own : error.fault.kind = .pattern :=
        Decidable.not_not.mp fun other => allowed error ⟨read, other⟩
      simp only [own]
      exact ⟨_, .pure _⟩

theorem Upsets.ends {fault : Fault} (upsets : Upsets characters files settings kind fault) :
    Logged.Ends (actionOf characters files kind settings) (.error fault) := by
  cases upsets with
  | keep refused => exact (ends_patternOf_of_refused _ refused).bind_error
  | rewrite chosen refused =>
      simp only [actionOf, chosen]
      exact (ends_patternOf_of_refused _ refused).bind_error
  | copy given blocked =>
      subst given
      have failed := Files.FileSystem.leadsToDirectory_eq_error_iff.mpr ⟨_, blocked, rfl⟩
      simp only [actionOf, failed]
      exact Logged.Ends.bind_error (.ofExcept _)

theorem actionOf_returns (allowed : ∀ fault, ¬Upsets characters files settings kind fault) :
    ∃ result, Logged.Ends (actionOf characters files kind settings) (.ok result) := by
  cases kind with
  | grep =>
      rcases patternOf_returns .grep fun error refused => allowed _ (.keep refused) with
        ⟨result, ends⟩
      exact ⟨_, ends.bind_of_ok (.pure _)⟩
  | replace =>
      cases chosen : settings.isOn "regexp" with
      | false =>
          simp only [actionOf, chosen]
          exact ⟨_, .pure _⟩
      | true =>
          rcases patternOf_returns .replace fun error refused =>
            allowed _ (.rewrite chosen refused) with ⟨result, ends⟩
          simp only [actionOf, chosen]
          exact ⟨_, ends.bind_of_ok (.pure _)⟩
  | tee =>
      cases looked : files.leadsToDirectory (Files.Path.tidy (settings.text "output")) with
      | error fault =>
          rcases Files.FileSystem.leadsToDirectory_eq_error_iff.mp looked with
            ⟨problem, blocked, -⟩
          exact absurd (.copy rfl blocked) (allowed _)
      | ok isDirectory =>
          simp only [actionOf, looked]
          cases isDirectory with
          | false => exact ⟨_, Logged.Ends.bind_of_ok (.ofExcept _) (.pure _)⟩
          | true => exact ⟨_, Logged.Ends.bind_of_ok (.ofExcept _) (.pure _)⟩

/-- The tokens of a filter bring its configuration to a fault if its options can be read and do
so. -/
def UpsetsBy (characters : Pattern.CharacterNames) (files : Files.FileSystem)
    (run : List String) (fault : Fault) : Prop :=
  ∃ name options kind settings, run = name :: options ∧ FilterKind.find? name = some kind ∧
    readOptions kind options = .ok settings ∧ Upsets characters files settings kind fault

theorem IsRefusedOtherwise.excess {text : String} {error : Pattern.Error}
    (refused : IsRefusedOtherwise characters text error) :
    Pattern.Excess text.toList error.fault := by
  cases Pattern.refusal_of_ofText refused.1 with
  | own pattern => exact absurd pattern refused.2
  | excess found => exact found

/-- Only numbers that stand in a pattern, contrary flags, and paths that are too long or lead into
a closed directory upset a filter. -/
theorem UpsetsBy.excess {run : List String} {fault : Fault}
    (upsets : UpsetsBy characters files run fault) :
    (∃ path problem, fault = .files (.at problem path) ∧ files.Blocked path problem ∧
        (problem = .nameTooLong ∨ problem = .denied)) ∨
      ∃ text error, fault = .pattern error ∧ Pattern.ofText characters text = .error error ∧
        Pattern.Excess text.toList error.fault := by
  rcases upsets with ⟨name, options, kind, settings, rfl, known, read, upsets⟩
  cases upsets with
  | keep refused => exact .inr ⟨_, _, rfl, refused.1, refused.excess⟩
  | rewrite chosen refused => exact .inr ⟨_, _, rfl, refused.1, refused.excess⟩
  | copy given blocked => exact .inl ⟨_, _, rfl, blocked, blocked.fault⟩

theorem configure_returns {run : List String}
    (allowed : ∀ fault, ¬UpsetsBy characters files run fault) :
    ∃ result, Logged.Ends (configure characters files run) (.ok result) := by
  unfold configure
  split
  · exact ⟨_, .pure _⟩
  · split
    · exact ⟨_, .pure _⟩
    · split
      · exact ⟨_, .pure _⟩
      · rename_i name options _ kind known _ settings read
        rcases actionOf_returns fun fault upsets =>
          allowed fault ⟨name, options, kind, settings, rfl, known, read, upsets⟩ with
          ⟨error | action, ends⟩
        · exact ⟨_, ends.bind_of_ok (.pure _)⟩
        · exact ⟨_, ends.bind_of_ok (.record _ _ (.pure _))⟩

theorem UpsetsBy.ends {run : List String} {fault : Fault}
    (upsets : UpsetsBy characters files run fault) :
    Logged.Ends (configure characters files run) (.error fault) := by
  rcases upsets with ⟨name, options, kind, settings, rfl, known, read, upsets⟩
  rw [configure, known]
  dsimp only
  rw [read]
  exact upsets.ends.bind_error

theorem configure_eq_error_iff {run : List String} {fault : Fault} :
    (configure characters files run).outcome.1 = .error fault ↔
      UpsetsBy characters files run fault := by
  refine ⟨fun failed => ?_, fun upsets => upsets.ends.outcome⟩
  by_cases upset : ∃ fault, UpsetsBy characters files run fault
  · rcases upset with ⟨other, upsets⟩
    cases upsets.ends.outcome.symm.trans failed
    exact upsets
  · rcases configure_returns (not_exists.mp upset) with ⟨result, ends⟩
    cases ends.outcome.symm.trans failed

/-- Behind a closed directory it cannot be told whether there is a directory. -/
example : (configure (fun _ => none) ⟨.directory (.ofList [("d", .closed)]), []⟩
    ["tee", "--output", "d/f"]).outcome.1 = .error (.files (.at .denied "d/f")) := by
  rfl

end Filter

namespace Resolution

variable {characters : Pattern.CharacterNames} {profiles : Profiles} {files : Files.FileSystem}
  {command : Command}

theorem ends_takeProfile_of_failed {name : String} {tokens : List String} {fault : Fault}
    (needs : command.needsProfile = true) (proper : name ≠ pipe)
    (failed : (profiles.resolve files name).outcome.1 = .error fault) :
    Logged.Ends (takeProfile profiles files command (name :: tokens)) (.error fault) := by
  have ends := Profiles.steady_resolve profiles files name
  rw [Logged.Steady, failed] at ends
  rw [takeProfile_of_named needs proper]
  exact ends.bind_error

/-- Filters are configured up to the first that brings this to a fault. -/
theorem ends_configureAll_of_failed {before after : List (List String)} {run : List String}
    {filters : List Filter} {fault : Fault}
    (earlier : before.Forall₂ (Configures characters files) filters)
    (failed : (Filter.configure characters files run).outcome.1 = .error fault) :
    Logged.Ends (configureAll characters files (before ++ run :: after)) (.error fault) := by
  induction earlier with
  | nil =>
      have ends := Filter.steady_configure characters files run
      rw [Logged.Steady, failed] at ends
      exact ends.bind_error
  | cons first rest induction => exact first.ends.bind_of_ok induction.bind_error

theorem ends_filtersFor_of_failed {options : List String} {before after : List (List String)}
    {run : List String} {filters : List Filter} {fault : Fault}
    (supported : command.takesFilters = true) (shape : runs options = before ++ run :: after)
    (earlier : before.Forall₂ (Configures characters files) filters)
    (failed : (Filter.configure characters files run).outcome.1 = .error fault) :
    Logged.Ends (filtersFor characters files command options) (.error fault) := by
  rw [filtersFor_eq, if_neg (by simp [shape]), if_neg (by simp [supported]), shape]
  exact ends_configureAll_of_failed earlier failed

theorem Upsets.ends {tokens : List String} {fault : Fault}
    (upsets : Upsets characters profiles files command tokens fault) :
    Logged.Ends (ofCommand characters profiles files command tokens) (.error fault) := by
  unfold ofCommand
  cases upsets with
  | profile unasked needs proper failed =>
      rw [if_neg (by simpa using unasked)]
      exact (ends_takeProfile_of_failed needs proper failed).bind_error
  | filter unasked equips supported shape earlier failed =>
      rw [if_neg (by simpa using unasked)]
      refine equips.ends.bind_of_ok ?_
      exact (ends_filtersFor_of_failed supported shape earlier failed).bind_error

/-- The resolution of a line ends in a fault exactly if it comes to the lookup of a profile or
to the configuration of a filter and this ends in that fault. -/
theorem ofTokens_eq_error_iff {inScript : Bool} {tokens : List String} {fault : Fault} :
    (ofTokens characters profiles files inScript tokens).outcome.1 = .error fault ↔
      ∃ name behind command, tokens = name :: behind ∧
        Command.find? inScript name = some command ∧
          Upsets characters profiles files command behind fault := by
  have ends {name : String} {behind : List String} {command : Command} {fault : Fault}
      (known : Command.find? inScript name = some command)
      (upsets : Upsets characters profiles files command behind fault) :
      (ofTokens characters profiles files inScript (name :: behind)).outcome.1 = .error fault := by
    rw [ofTokens, known]
    exact upsets.ends.outcome
  constructor
  · intro failed
    rcases resolves_or_upsets characters profiles files inScript tokens with
      ⟨resolution, resolves⟩ | ⟨name, behind, command, other, rfl, known, upsets⟩
    · cases resolves.ends.outcome.symm.trans failed
    · cases (ends known upsets).symm.trans failed
      exact ⟨name, behind, command, rfl, known, upsets⟩
  · rintro ⟨name, behind, command, rfl, known, upsets⟩
    exact ends known upsets

end Resolution

end Runbook
