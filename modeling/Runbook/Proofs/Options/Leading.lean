import Mathlib.Data.List.TakeWhile
import Runbook.Proofs.Options.Assigned

/-! # Options in front of a command

Options that are given in full are taken one after the other, each with its value. If
the grammar has a remainder, it starts with the first argument that is no flag, and
holds this argument and everything behind it as it stands. The arguments behind it are
told apart before that, which can only fail: what they are told to be does not matter.
-/

namespace Runbook.Options

variable {grammar : Grammar}

/-! ## Telling arguments apart -/

theorem classify_cons {argument : String} (apart : argument ≠ "--") (rest : List String) :
    classify grammar (argument :: rest) = do
      let role ← roleOf grammar argument
      return ⟨argument, role⟩ :: (← classify grammar rest) := by
  rw [classify, if_neg (by simpa using apart)]

theorem classify_cons_of_roleOf {argument : String} {role : Role} (apart : argument ≠ "--")
    (told : roleOf grammar argument = .ok role) (rest : List String) :
    classify grammar (argument :: rest) =
      (classify grammar rest).map (⟨argument, role⟩ :: ·) := by
  rw [classify_cons apart, told]
  cases classify grammar rest <;> rfl

/-- Arguments that can all be told apart keep their texts and their order. -/
theorem exists_classify {arguments : List String}
    (clear : ∀ argument ∈ arguments.takeWhile (· != "--"),
      ∃ role, roleOf grammar argument = .ok role) :
    ∃ told, classify grammar arguments = .ok told ∧ told.map (·.text) = arguments := by
  induction arguments with
  | nil => exact ⟨[], rfl, rfl⟩
  | cons argument rest induction =>
      by_cases separator : argument = "--"
      · subst separator
        exact ⟨_, by rw [classify, if_pos (by decide)], by simp [Function.comp_def]⟩
      · rw [List.takeWhile_cons_of_pos (by simpa using separator)] at clear
        rcases clear argument List.mem_cons_self with ⟨role, plain⟩
        rcases induction fun other member => clear other (List.mem_cons_of_mem _ member) with
          ⟨told, behind, texts⟩
        refine ⟨⟨argument, role⟩ :: told, ?_, by rw [List.map_cons, texts]⟩
        rw [classify_cons_of_roleOf separator plain, behind]
        rfl

/-- The first argument that cannot be told decides how telling them apart ends. -/
theorem classify_eq_error {before : List String} {argument : String} {stop : Stop}
    (clear : ∀ other ∈ before, other ≠ "--" ∧ ∃ role, roleOf grammar other = .ok role)
    (apart : argument ≠ "--") (upset : roleOf grammar argument = .error stop)
    (behind : List String) : classify grammar (before ++ argument :: behind) = .error stop := by
  induction before with
  | nil =>
      rw [List.nil_append, classify_cons apart, upset]
      rfl
  | cons other before induction =>
      rcases clear other List.mem_cons_self with ⟨separate, role, plain⟩
      have failed := induction fun next member => clear next (List.mem_cons_of_mem _ member)
      rw [List.cons_append, classify_cons_of_roleOf separate plain, failed]
      rfl

/-! ## Options given in full -/

/-- One option given in full, and what it sets: a text behind its flag or assigned to it, or
a switch. A text behind its flag must not look like a flag itself. -/
inductive Whole (grammar : Grammar) : List String → Parameter → Setting → Prop
  | separate {flag value : String} {parameter : Parameter}
      (known : grammar.find? flag = some parameter) (takesText : parameter.kind = .text)
      (plain : roleOf grammar value = .ok .plain) (apart : value ≠ "--") :
      Whole grammar [flag, value] parameter (.text value)
  | assigned {flag value : String} {parameter : Parameter}
      (known : grammar.find? flag = some parameter) (takesText : parameter.kind = .text) :
      Whole grammar [assigning flag value] parameter (.text value)
  | switch {flag : String} {parameter : Parameter}
      (known : grammar.find? flag = some parameter) (isSwitch : parameter.kind = .switch) :
      Whole grammar [flag] parameter (.switch true)

/-- Arguments that consist of options given in full, and the progress that they make. -/
inductive Complete (grammar : Grammar) : Progress → List String → Progress → Prop
  | done {progress : Progress} : Complete grammar progress [] progress
  | option {progress final : Progress} {spelled others : List String} {parameter : Parameter}
      {setting : Setting} (whole : Whole grammar spelled parameter setting)
      (behind : Complete grammar (progress.set parameter setting) others final) :
      Complete grammar progress (spelled ++ others) final

/-- A grammar whose flags all start with a dash and have no equals sign, none of them being
just a double dash, and in which no parameter has to be given. -/
structure Grammar.Regular (grammar : Grammar) : Prop where
  dashed : ∀ entry ∈ grammar.flags, entry.1.toList.head? = some '-'
  unmarked : ∀ entry ∈ grammar.flags, '=' ∉ entry.1.toList
  proper : ∀ entry ∈ grammar.flags, entry.1 ≠ "--"
  optional : ∀ parameter ∈ grammar.parameters, parameter.required = false

theorem roleOf_flag {flag : String} {parameter : Parameter}
    (known : grammar.find? flag = some parameter) (dashed : flag.toList.head? = some '-') :
    roleOf grammar flag = .ok (.flag ⟨flag, parameter, none, false⟩) := by
  rw [roleOf]
  simp [dashed, known]

theorem takeFlag_separate {parameter : Parameter} (takesText : parameter.kind = .text)
    (progress : Progress) (flag value : String) (rest : List Argument) :
    takeFlag grammar progress ⟨flag, parameter, none, false⟩ (⟨value, .plain⟩ :: rest) =
      .ok (progress.set parameter (.text value), rest) := by
  simp only [takeFlag, assignNext, Parameter.takesValue, takesText, assign]
  rfl

theorem takeFlag_switch {parameter : Parameter} (isSwitch : parameter.kind = .switch)
    (progress : Progress) (flag : String) (rest : List Argument) :
    takeFlag grammar progress ⟨flag, parameter, none, false⟩ rest =
      .ok (progress.set parameter (.switch true), rest) := by
  simp only [takeFlag, assignNext, Parameter.takesValue, isSwitch, turnOn]
  rfl

theorem consume_flag {fuel : Nat} {progress next : Progress} {given : Given} {text : String}
    {rest left : List Argument} (taken : takeFlag grammar progress given rest = .ok (next, left)) :
    consume grammar (fuel + 1) progress (⟨text, .flag given⟩ :: rest) =
      consume grammar fuel next left := by
  rw [consume]
  dsimp only
  rw [taken]
  rfl

theorem consume_nil (fuel : Nat) (progress : Progress) :
    consume grammar fuel progress [] = .ok progress := by
  cases fuel <;> rfl

/-- The remainder starts with an argument that is no flag. -/
theorem consume_plain {name description : String}
    (kept : grammar.remainder = some (name, description)) (fuel : Nat) (progress : Progress)
    (text : String) (rest : List Argument) :
    consume grammar (fuel + 1) progress (⟨text, .plain⟩ :: rest) =
      .ok { progress with
        settings := (name, .texts (text :: rest.map (·.text))) :: progress.settings } := by
  rw [consume]
  dsimp only
  rw [kept]

/-- An option given in full is told to be what it is, and sets its parameter. -/
theorem Whole.taken (regular : grammar.Regular) {spelled : List String} {parameter : Parameter}
    {setting : Setting} (whole : Whole grammar spelled parameter setting) :
    ∃ told, told ≠ [] ∧
      (∀ behind, classify grammar (spelled ++ behind) =
        (classify grammar behind).map (told ++ ·)) ∧
      ∀ fuel progress behind, consume grammar (fuel + 1) progress (told ++ behind) =
        consume grammar fuel (progress.set parameter setting) behind := by
  cases whole with
  | @separate flag value parameter known takesText plain apart =>
      have member := mem_flags_of_find? known
      have flagged := roleOf_flag known (regular.dashed _ member)
      refine ⟨[⟨flag, .flag ⟨flag, parameter, none, false⟩⟩, ⟨value, .plain⟩], by simp,
        fun behind => ?_, fun fuel progress behind => ?_⟩
      · rw [List.cons_append, classify_cons_of_roleOf (regular.proper _ member) flagged,
          List.cons_append, classify_cons_of_roleOf apart plain, List.nil_append]
        cases classify grammar behind <;> rfl
      · exact consume_flag (takeFlag_separate takesText progress flag value behind)
  | @assigned flag value parameter known takesText =>
      have flagged := roleOf_assigning known regular.unmarked
        (regular.dashed _ (mem_flags_of_find? known)) value
      refine ⟨[⟨assigning flag value, .flag ⟨flag, parameter, some value.toList, true⟩⟩], by simp,
        fun behind => ?_, fun fuel progress behind => ?_⟩
      · exact classify_cons_of_roleOf (assigning_ne value (by decide)) flagged behind
      · exact consume_flag (takeFlag_assigning takesText progress value behind)
  | @switch flag parameter known isSwitch =>
      have member := mem_flags_of_find? known
      have flagged := roleOf_flag known (regular.dashed _ member)
      refine ⟨[⟨flag, .flag ⟨flag, parameter, none, false⟩⟩], by simp,
        fun behind => ?_, fun fuel progress behind => ?_⟩
      · exact classify_cons_of_roleOf (regular.proper _ member) flagged behind
      · exact consume_flag (takeFlag_switch isSwitch progress flag behind)

namespace Complete

variable {progress final : Progress} {arguments : List String}

/-- Options in front are taken first, with no more fuel than there are arguments. -/
theorem taken (regular : grammar.Regular) (complete : Complete grammar progress arguments final) :
    ∃ told, (∀ behind, classify grammar (arguments ++ behind) =
        (classify grammar behind).map (told ++ ·)) ∧
      ∀ fuel behind, told.length + behind.length ≤ fuel → ∃ left, behind.length ≤ left ∧
        consume grammar fuel progress (told ++ behind) = consume grammar left final behind := by
  induction complete with
  | done =>
      refine ⟨[], fun behind => ?_, fun fuel behind enough => ⟨fuel, by simpa using enough, rfl⟩⟩
      rw [List.nil_append]
      cases classify grammar behind <;> rfl
  | option whole _ induction =>
      rcases whole.taken regular with ⟨first, nonempty, firstTold, firstConsumed⟩
      rcases induction with ⟨others, othersTold, othersConsumed⟩
      refine ⟨first ++ others, fun behind => ?_, fun fuel behind enough => ?_⟩
      · rw [List.append_assoc, firstTold, othersTold]
        cases classify grammar behind with
        | error stop => rfl
        | ok told => simp [Except.map]
      · have positive := List.length_pos_of_ne_nil nonempty
        rw [List.length_append] at enough
        rcases Nat.exists_eq_add_one.mpr (show 0 < fuel by omega) with ⟨fuel, rfl⟩
        rcases othersConsumed fuel behind (by omega) with ⟨left, within, same⟩
        exact ⟨left, within, by rw [List.append_assoc, firstConsumed, same]⟩

theorem extras_eq (complete : Complete grammar progress arguments final) :
    final.extras = progress.extras := by
  induction complete with
  | done => rfl
  | option _ _ induction => exact induction

end Complete

/-! ## Reading -/

section Reading

variable {globals : List String} {final : Progress} (regular : grammar.Regular)
  (complete : Complete grammar .empty globals final)
include regular complete

theorem read_of_consume {arguments : List String} {told : List Argument}
    {settings : List (String × Setting)} (classified : classify grammar arguments = .ok told)
    (consumed : consume grammar told.length .empty told =
      .ok { final with settings := settings }) :
    read grammar arguments = .ok ({ final with settings := settings }.result grammar) := by
  have missing : grammar.parameters.filter (fun parameter =>
      parameter.required && !final.seen.contains parameter) = [] := by
    rw [List.filter_eq_nil_iff]
    intro parameter member
    simp [regular.optional parameter member]
  have extras : final.extras = [] := complete.extras_eq
  rw [read, classified]
  simp only [bind, Except.bind, consumed, missing, extras]
  rfl

theorem read_complete : read grammar globals = .ok (final.result grammar) := by
  rcases complete.taken regular with ⟨told, classified, consumed⟩
  have classified := classified []
  rcases consumed told.length [] (by simp) with ⟨left, -, taken⟩
  rw [List.append_nil, consume_nil] at taken
  have alone : classify grammar globals = .ok told := by
    simpa [classify, Except.map] using classified
  exact read_of_consume regular complete alone taken

variable {text : String} {rest : List String} (apart : text ≠ "--")
  (plain : roleOf grammar text = .ok .plain)
include apart plain

/-- The first argument behind the options and all arguments behind it become the remainder. -/
theorem read_remainder {name description : String}
    (kept : grammar.remainder = some (name, description))
    (clear : ∀ argument ∈ rest.takeWhile (· != "--"), ∃ role, roleOf grammar argument = .ok role) :
    read grammar (globals ++ text :: rest) =
      .ok ({ final with settings := (name, .texts (text :: rest)) :: final.settings }.result
        grammar) := by
  rcases complete.taken regular with ⟨told, classified, consumed⟩
  rcases exists_classify clear with ⟨others, othersTold, texts⟩
  have behind : classify grammar (text :: rest) = .ok (⟨text, .plain⟩ :: others) := by
    rw [classify_cons_of_roleOf apart plain, othersTold]
    rfl
  have whole : classify grammar (globals ++ text :: rest) =
      .ok (told ++ ⟨text, .plain⟩ :: others) := by
    rw [classified, behind]
    rfl
  refine read_of_consume regular complete whole ?_
  rcases consumed (told ++ ⟨text, .plain⟩ :: others).length (⟨text, .plain⟩ :: others)
    (by rw [List.length_append]) with ⟨left, within, taken⟩
  rw [List.length_cons] at within
  rcases Nat.exists_eq_add_one.mpr (Nat.zero_lt_of_lt within) with ⟨left, rfl⟩
  rw [taken, consume_plain kept, texts]

/-- An argument behind the options that cannot be told ends the reading. -/
theorem read_eq_error {before behind : List String} {argument : String} {stop : Stop}
    (parts : rest.takeWhile (· != "--") = before ++ argument :: behind)
    (clear : ∀ other ∈ before, ∃ role, roleOf grammar other = .ok role)
    (upset : roleOf grammar argument = .error stop) :
    read grammar (globals ++ text :: rest) = .error stop := by
  rcases complete.taken regular with ⟨told, classified, -⟩
  have separate : ∀ other ∈ before ++ argument :: behind, other ≠ "--" := by
    intro other member
    rw [← parts] at member
    simpa using List.mem_takeWhile_imp member
  have shape : rest = before ++ argument :: (behind ++ rest.dropWhile (· != "--")) := by
    have whole := List.takeWhile_append_dropWhile (p := (· != "--")) (l := rest)
    rw [parts, List.append_assoc, List.cons_append] at whole
    exact whole.symm
  have failed :
      classify grammar (before ++ argument :: (behind ++ rest.dropWhile (· != "--"))) =
        .error stop :=
    classify_eq_error
      (fun other member => ⟨separate other (List.mem_append_left _ member), clear other member⟩)
      (separate argument (by simp)) upset _
  rw [← shape] at failed
  have whole : classify grammar (globals ++ text :: rest) = .error stop := by
    rw [classified, classify_cons_of_roleOf apart plain, failed]
    rfl
  rw [read, whole]
  rfl

end Reading

end Runbook.Options
