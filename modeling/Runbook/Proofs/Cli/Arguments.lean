import Mathlib.Data.List.Infix
import Runbook.Cli
import Runbook.Document.Build
import Runbook.Proofs.Options.Leading
import Runbook.Proofs.Tokens.Joining
import Runbook.Text.CharacterName

/-! # Arguments of the command

The command and its arguments stand behind the global options and are handed on as they are,
unless one of them that stands before a double dash is the start of several global flags:
such an argument is refused, because all arguments are told apart before the command takes
them.
-/

namespace Runbook.Cli

open Options (Complete candidates roleOf splitAssignment)

/-! ## The grammar -/

theorem grammar_regular : grammar.Regular where
  dashed := by decide
  unmarked := by decide
  proper := by decide
  optional := by decide

/-- The names of the global flags. -/
def flags : List String := grammar.flags.map (·.1)

/-- What two different flags both start with. -/
theorem mem_of_shared_start {first second : String} (firstKnown : first ∈ flags)
    (secondKnown : second ∈ flags) (different : first ≠ second) {start : List Char}
    (inFirst : start <+: first.toList) (inSecond : start <+: second.toList) :
    start ∈ ["".toList, "-".toList, "--".toList, "--h".toList] := by
  have all : ∀ first ∈ flags, ∀ second ∈ flags, first ≠ second →
      ∀ start ∈ first.toList.inits, start.isPrefixOf second.toList = true →
        start ∈ ["".toList, "-".toList, "--".toList, "--h".toList] := by
    decide
  exact all first firstKnown second secondKnown different start
    ((List.mem_inits _ _).mpr inFirst) (List.isPrefixOf_iff_prefix.mpr inSecond)

/-! ## Flags that an argument can stand for -/

/-- What all flags start with that an argument can stand for. -/
def opening (text : List Char) : List Char :=
  match text with
  | '-' :: '-' :: _ => (splitAssignment text).1
  | _ => text.take 2

/-- An argument is compared with one flag after the other, and can stand for those that
start with its opening. -/
theorem exists_choose (text : List Char) :
    ∃ choose : String × Options.Parameter → Option Options.Given,
      candidates grammar text = grammar.flags.filterMap choose ∧
        ∀ entry given, choose entry = some given →
          given.flag = entry.1 ∧ opening text <+: entry.1.toList := by
  unfold candidates
  split
  · refine ⟨_, if_pos rfl, fun entry given chosen => ?_⟩
    simp only [Option.ite_none_right_eq_some, Option.some.injEq] at chosen
    exact ⟨chosen.2 ▸ rfl, List.isPrefixOf_iff_prefix.mp chosen.1⟩
  · rename_i notLong
    have short : opening text = text.take 2 := by
      unfold opening
      split
      · exact absurd rfl (notLong _)
      · rfl
    refine ⟨_, rfl, fun entry given chosen => ?_⟩
    rw [short]
    dsimp only at chosen
    split at chosen
    · rename_i same
      exact ⟨Option.some.inj chosen ▸ rfl, (beq_iff_eq.mp same) ▸ List.prefix_rfl⟩
    · simp only [Option.ite_none_right_eq_some, Option.some.injEq] at chosen
      exact ⟨chosen.2 ▸ rfl,
        (List.take_prefix 2 text).trans (List.isPrefixOf_iff_prefix.mp chosen.1)⟩

theorem map_flag_filterMap_sublist {entries : List (String × Options.Parameter)}
    {choose : String × Options.Parameter → Option Options.Given}
    (same : ∀ entry given, choose entry = some given → given.flag = entry.1) :
    ((entries.filterMap choose).map (·.flag)).Sublist (entries.map (·.1)) := by
  induction entries with
  | nil => exact .slnil
  | cons entry entries induction =>
      rw [List.filterMap_cons, List.map_cons]
      cases chosen : choose entry with
      | none => exact induction.cons _
      | some given =>
          rw [List.map_cons, same entry given chosen]
          exact induction.cons_cons _

/-- Only texts that open in one of a few ways can stand for several flags. -/
theorem candidates_of_opening {text : List Char}
    (single : opening text ∉ ["".toList, "-".toList, "--".toList, "--h".toList]) :
    candidates grammar text = [] ∨ ∃ given, candidates grammar text = [given] := by
  rcases exists_choose text with ⟨choose, chosen, spec⟩
  have sublist : ((grammar.flags.filterMap choose).map (·.flag)).Sublist flags :=
    map_flag_filterMap_sublist fun entry given found => (spec entry given found).1
  have opens : ∀ given ∈ grammar.flags.filterMap choose,
      given.flag ∈ flags ∧ opening text <+: given.flag.toList := by
    intro given member
    refine ⟨sublist.subset (List.mem_map_of_mem member), ?_⟩
    rcases List.mem_filterMap.mp member with ⟨entry, -, found⟩
    rw [(spec entry given found).1]
    exact (spec entry given found).2
  have distinct := (show flags.Nodup by decide).sublist sublist
  rw [chosen]
  generalize grammar.flags.filterMap choose = found at opens distinct
  rcases found with _ | ⟨first, _ | ⟨second, others⟩⟩
  · exact .inl rfl
  · exact .inr ⟨first, rfl⟩
  · have firstOpens := opens first List.mem_cons_self
    have secondOpens := opens second (List.mem_cons_of_mem _ List.mem_cons_self)
    have different : first.flag ≠ second.flag := by
      rw [List.map_cons, List.map_cons, List.nodup_cons] at distinct
      exact fun same => distinct.1 (same ▸ List.mem_cons_self)
    exact absurd (mem_of_shared_start firstOpens.1 secondOpens.1 different firstOpens.2
      secondOpens.2) single

/-! ## Arguments that cannot be told -/

/-- Whether an argument is the start of several flags, up to its first equals sign. -/
def isAmbiguous (argument : String) : Bool :=
  let start := argument.toList.takeWhile (· != '=')
  start == "--h".toList || start == "--".toList

theorem splitAssignment_fst (text : List Char) :
    (splitAssignment text).1 = text.takeWhile (· != '=') := by
  rw [Text.takeWhile_ne_eq, splitAssignment]
  cases Text.splitAtFirst ['='] text <;> rfl

theorem opening_not_mem {argument : String} (dashed : argument.toList.head? = some '-')
    (long : argument.toList.length ≠ 1) (clear : isAmbiguous argument = false) :
    opening argument.toList ∉ ["".toList, "-".toList, "--".toList, "--h".toList] := by
  simp only [isAmbiguous, Bool.or_eq_false_iff, beq_eq_false_iff_ne] at clear
  generalize argument.toList = text at dashed long clear
  rcases text with _ | ⟨first, _ | ⟨second, tail⟩⟩
  · contradiction
  · contradiction
  · cases dashed
    by_cases twice : second = '-'
    · subst twice
      have opens : opening ('-' :: '-' :: tail) = '-' :: '-' :: tail.takeWhile (· != '=') := by
        rw [opening, splitAssignment_fst]
        rfl
      rw [List.takeWhile_cons_of_pos (by decide), List.takeWhile_cons_of_pos (by decide)] at clear
      rw [opens]
      generalize tail.takeWhile (· != '=') = start at clear
      simpa [and_comm] using clear
    · have opens : opening ('-' :: second :: tail) = ['-', second] := by
        unfold opening
        split
        · rename_i same
          cases same
          contradiction
        · rfl
      rw [opens]
      simp [twice]

/-- An argument before a double dash can be told unless it is ambiguous. -/
theorem exists_roleOf {argument : String} (clear : isAmbiguous argument = false) :
    ∃ role, roleOf grammar argument = .ok role := by
  rw [roleOf]
  dsimp only
  split
  · exact ⟨_, rfl⟩
  · rename_i dashed
    split
    · exact ⟨_, rfl⟩
    · split
      · exact ⟨_, rfl⟩
      · rename_i long
        split
        · exact ⟨_, rfl⟩
        · rcases candidates_of_opening (opening_not_mem (by simpa using dashed)
            (by simpa using long) clear) with none | ⟨given, one⟩
          · rw [none]
            dsimp only
            split
            · exact ⟨_, rfl⟩
            · exact ⟨_, rfl⟩
          · rw [one]
            exact ⟨_, rfl⟩

/-- The flags that an argument is the start of. -/
def possibleFlags (argument : String) : List String :=
  flags.filter fun flag => (argument.toList.takeWhile (· != '=')).isPrefixOf flag.toList

theorem candidates_long {text : List Char} (long : "--".toList <+: text) :
    candidates grammar text = grammar.flags.filterMap fun entry =>
      if (splitAssignment text).1.isPrefixOf entry.1.toList then
        some ⟨entry.1, entry.2, (splitAssignment text).2, (splitAssignment text).2.isSome⟩
      else none := by
  rcases long with ⟨tail, rfl⟩
  rfl

theorem not_ambiguous_of_find? {argument : String} {parameter : Options.Parameter}
    (known : grammar.find? argument = some parameter) : isAmbiguous argument = false := by
  have clear : ∀ entry ∈ grammar.flags, isAmbiguous entry.1 = false := by decide
  exact clear _ (Options.mem_flags_of_find? known)

/-- An ambiguous argument stands for two flags at least. -/
theorem roleOf_ambiguous {argument : String} (ambiguous : isAmbiguous argument = true) :
    roleOf grammar argument =
      .error (.fault (.ambiguous argument (possibleFlags argument))) := by
  have unknown : grammar.find? argument = none := by
    cases known : grammar.find? argument with
    | none => rfl
    | some parameter =>
        rw [not_ambiguous_of_find? known] at ambiguous
        contradiction
  rw [roleOf, unknown, possibleFlags]
  simp only [isAmbiguous, Bool.or_eq_true, beq_iff_eq] at ambiguous
  have starts := List.takeWhile_prefix (· != '=') (l := argument.toList)
  generalize argument.toList = text at ambiguous starts
  have same := splitAssignment_fst text
  cases parts : splitAssignment text with
  | mk start value =>
      rw [parts] at same
      simp only at same
      rw [← same] at ambiguous starts ⊢
      have long : "--".toList <+: start := by rcases ambiguous with rfl | rfl <;> decide
      rw [candidates_long (long.trans starts), parts]
      rcases starts with ⟨tail, rfl⟩
      rcases ambiguous with rfl | rfl
      · cases value <;> rfl
      · cases value <;> rfl

/-! ## The command and its arguments -/

/-- Global options that are given in full. -/
def GlobalOptions (arguments : List String) : Prop :=
  ∃ final, Complete grammar .empty arguments final

/-- Options by which a command is run with these tokens, and which are otherwise those that
are read where no command is given. -/
structure HandsOn (alone handed : Options.Settings) (tokens : List String) : Prop where
  command : handed.texts "command" = tokens
  others : ∀ name, name ≠ "command" → handed.get name = alone.get name

theorem handsOn_result (progress : Options.Progress) (tokens : List String) :
    HandsOn (progress.result grammar)
      ({ progress with settings := ("command", .texts tokens) :: progress.settings }.result grammar)
      tokens where
  command := rfl
  others name different := by
    have last : ∀ setting : Options.Setting, [("command", setting)].lookup name = none := by
      intro setting
      rw [List.lookup_eq_none_iff]
      simpa using different
    let declared := grammar.parameters.filterMap fun parameter =>
      if parameter.kind == .help then none
      else
        some (parameter.name, (progress.settings.lookup parameter.name).getD parameter.default)
    have reads : ∀ setting, (⟨declared ++ [("command", setting)]⟩ : Options.Settings).get name =
        (declared.lookup name).getD .absent := by
      intro setting
      rw [Options.Settings.get, List.lookup_append, last, Option.or_none]
    exact (reads (.texts tokens)).trans (reads _).symm

/-- What the program leaves behind when it refuses its arguments. -/
def refused (machine : Machine) (fault : Options.Fault) : Outcome where
  result := .ok ⟨2, "", s!"{grammar.usage}\n{grammar.program}: error: {fault.message}\n"⟩
  records := []
  files := machine.files

section Reading

variable {globals : List String} {name : String} {rest : List String}
  (complete : GlobalOptions globals) (named : name.toList.head? ≠ some '-')
include named

theorem roleOf_name : roleOf grammar name = .ok .plain := by
  rw [roleOf]
  simp [named]

theorem name_ne_separator : name ≠ "--" := by
  rintro rfl
  exact named rfl

include complete

/-- Everything from the command on is read as it stands. -/
theorem exists_handsOn
    (clear : ∀ argument ∈ rest.takeWhile (· != "--"), isAmbiguous argument = false) :
    ∃ alone handed, Options.read grammar globals = .ok alone ∧
      Options.read grammar (globals ++ name :: rest) = .ok handed ∧
      HandsOn alone handed (name :: rest) := by
  rcases complete with ⟨final, complete⟩
  exact ⟨_, _, Options.read_complete grammar_regular complete,
    Options.read_remainder grammar_regular complete (name_ne_separator named) (roleOf_name named)
      rfl fun argument member => exists_roleOf (clear argument member),
    handsOn_result final (name :: rest)⟩

/-- The first argument that is ambiguous is refused. -/
theorem read_of_ambiguous {argument : String}
    (found : (rest.takeWhile (· != "--")).find? isAmbiguous = some argument) :
    Options.read grammar (globals ++ name :: rest) =
      .error (.fault (.ambiguous argument (possibleFlags argument))) := by
  rcases complete with ⟨final, complete⟩
  rcases List.find?_eq_some_iff_append.mp found with ⟨ambiguous, before, behind, parts, clear⟩
  exact Options.read_eq_error grammar_regular complete (name_ne_separator named)
    (roleOf_name named) parts
    (fun other member => exists_roleOf (by simpa using clear other member))
    (roleOf_ambiguous ambiguous)

end Reading

/-- Behind global options that are given in full, a command that does not start with a dash is
run with exactly the arguments behind it, and no global option is taken from them, unless one
of them before any double dash is ambiguous: then nothing is run. -/
theorem run_hands_on (fuel : Nat) (machine : Machine) {globals : List String}
    (complete : GlobalOptions globals) {name : String} (named : name.toList.head? ≠ some '-')
    (rest : List String) :
    match (rest.takeWhile (· != "--")).find? isAmbiguous with
    | none => ∃ alone handed, Options.read grammar globals = .ok alone ∧
        HandsOn alone handed (name :: rest) ∧
        run fuel machine (globals ++ name :: rest) = runOptions fuel machine handed ∧
        ∀ fuel surroundings,
          Engine.runCommandLine fuel surroundings (lineOf (handed.texts "command")) =
            Engine.runTokens fuel surroundings (Tokens.join (name :: rest)) (name :: rest)
    | some argument => run fuel machine (globals ++ name :: rest) =
        some (refused machine (.ambiguous argument (possibleFlags argument))) := by
  split
  · rename_i none
    have clear : ∀ argument ∈ rest.takeWhile (· != "--"), isAmbiguous argument = false := by
      simpa using none
    rcases exists_handsOn complete named clear with ⟨alone, handed, readAlone, read, hands⟩
    refine ⟨alone, handed, readAlone, hands, ?_, fun fuel surroundings => ?_⟩
    · rw [run, read]
    · rw [hands.command]
      exact Engine.runCommandLine_join fuel surroundings (List.cons_ne_nil name rest)
  · rename_i argument found
    rw [run, read_of_ambiguous complete named found]
    rfl

/-- A machine with no files and no programs on it. -/
def bareMachine : Machine where
  files := ⟨.directory .nil, []⟩
  environment := []
  launch := fun _ _ => .error (.state "There are no programs.")
  reader := Document.read
  characters := Text.codeNamed?
  time := ""

theorem run_hands_on_dashed :
    GlobalOptions ["--home", "h", "-q"] ∧ "run".toList.head? ≠ some '-' ∧
      (∃ alone handed, Options.read grammar ["--home", "h", "-q"] = .ok alone ∧
        HandsOn alone handed ["run", "e", "-q", "--verb", "--home", "--", "--h"] ∧
        run 9 bareMachine
            ["--home", "h", "-q", "run", "e", "-q", "--verb", "--home", "--", "--h"] =
          runOptions 9 bareMachine handed) ∧
      run 9 bareMachine ["--home", "h", "-q", "run", "e", "--h"] =
        some (refused bareMachine (.ambiguous "--h" ["--help", "--home"])) := by
  have complete : GlobalOptions ["--home", "h", "-q"] :=
    ⟨_, .option (.separate rfl rfl rfl (by decide)) (.option (.switch rfl rfl) .done)⟩
  have named : "run".toList.head? ≠ some '-' := by decide
  refine ⟨complete, named, ?_, ?_⟩
  · rcases run_hands_on 9 bareMachine complete named ["e", "-q", "--verb", "--home", "--", "--h"]
      with ⟨alone, handed, read, hands, ran, -⟩
    exact ⟨alone, handed, read, hands, ran⟩
  · exact run_hands_on 9 bareMachine complete named ["e", "--h"]

end Runbook.Cli
