import Mathlib.Data.List.Basic
import Runbook.Files.Path

/-! # Steps of paths

The steps of a path are the names in it that lead somewhere. A tidy path is its root and its
steps, and a path seen from a directory takes its steps behind those of the directory.
-/

namespace Runbook.Files.Path

/-- The names of a path that lead somewhere. -/
def steps (path : String) : List String := (names path).filter fun name => !isTrivial name

/-- A name by which a path takes one step. -/
structure IsStep (name : String) : Prop where
  leads : isTrivial name = false
  single : '/' ∉ name.toList

/-- A path with these steps from this root. -/
def written (start : String) (taken : List String) : String :=
  let result := start ++ "/".intercalate taken
  if result == "" then "." else result

theorem written_ne_empty {start : String} {taken : List String} : written start taken ≠ "" := by
  unfold written
  dsimp only
  split
  · decide
  · rename_i nonempty
    exact fun empty => nonempty (beq_iff_eq.mpr empty)

theorem tidy_eq_written (path : String) : tidy path = written (root path) (steps path) := rfl

/-! ## Names -/

theorem splitOn_eq (separator : Char) (text : List Char) :
    splitOn separator text = text.splitOn separator := by
  induction text with
  | nil => rfl
  | cons c text induction =>
      rw [splitOn, induction, List.splitOn_cons_eq_if_modifyHead]
      cases parts : text.splitOn separator with
      | nil => exact absurd parts (List.splitOn_ne_nil _ _)
      | cons part parts => rfl

theorem names_eq (path : String) : names path = (path.toList.splitOn '/').map String.ofList := by
  rw [names, splitOn_eq]

theorem names_ne_nil (path : String) : names path ≠ [] := by
  rw [names_eq]
  exact List.map_eq_nil_iff.not.mpr (List.splitOn_ne_nil '/' path.toList)

theorem names_append (front back : String) :
    names (front ++ "/" ++ back) = names front ++ names back := by
  have shape : (front ++ "/" ++ back).toList = front.toList ++ '/' :: back.toList := by simp
  rw [names_eq, names_eq, names_eq, shape, List.splitOn_append_cons_self, List.map_append]

theorem names_of_single {name : String} (single : '/' ∉ name.toList) : names name = [name] := by
  rw [names_eq, List.splitOn_eq_singleton single]
  simp

theorem names_intercalate {steps : List String} (nonempty : steps ≠ [])
    (single : ∀ name ∈ steps, '/' ∉ name.toList) : names ("/".intercalate steps) = steps := by
  have slash : "/".toList = ['/'] := rfl
  rw [names_eq, String.toList_intercalate, slash, List.splitOn_intercalate]
  · simp
  · simpa using single
  · simpa using nonempty

theorem not_mem_of_mem_splitOn {separator : Char} {text part : List Char}
    (member : part ∈ text.splitOn separator) : separator ∉ part := by
  induction text generalizing part with
  | nil =>
      rw [List.splitOn_nil] at member
      rw [List.mem_singleton.mp member]
      exact List.not_mem_nil
  | cons c text induction =>
      rw [List.splitOn_cons_eq_if_modifyHead] at member
      split at member
      · rcases List.mem_cons.mp member with rfl | member
        · exact List.not_mem_nil
        · exact induction member
      · rename_i different
        have different : separator ≠ c := fun same => different (by simp [same])
        cases parts : text.splitOn separator with
        | nil => exact absurd parts (List.splitOn_ne_nil _ _)
        | cons first rest =>
            rw [parts, List.modifyHead_cons] at member
            rcases List.mem_cons.mp member with rfl | member
            · have free : separator ∉ first := induction (by simp [parts])
              simpa [different] using free
            · exact induction (by simp [parts, member])

theorem isStep_of_mem_steps {path name : String} (member : name ∈ steps path) : IsStep name := by
  rcases List.mem_filter.mp member with ⟨inPath, leads⟩
  rw [names_eq] at inPath
  rcases List.mem_map.mp inPath with ⟨part, inText, rfl⟩
  refine ⟨by simpa using leads, ?_⟩
  rw [String.toList_ofList]
  exact not_mem_of_mem_splitOn inText

theorem steps_append (front back : String) :
    steps (front ++ "/" ++ back) = steps front ++ steps back := by
  rw [steps, names_append, List.filter_append, ← steps, ← steps]

theorem steps_eq_self {path : String} {list : List String} (named : names path = list)
    (proper : ∀ name ∈ list, IsStep name) : steps path = list := by
  rw [steps, named]
  exact List.filter_eq_self.mpr fun name member => by simp [(proper name member).leads]

theorem steps_of_isStep {name : String} (proper : IsStep name) : steps name = [name] :=
  steps_eq_self (names_of_single proper.single) (by simpa using proper)

theorem steps_of_isTrivial {name : String} (trivial : isTrivial name = true) : steps name = [] := by
  rcases Bool.or_eq_true _ _ ▸ trivial with empty | dot
  · rw [eq_of_beq empty]
    decide
  · rw [eq_of_beq dot]
    decide

theorem names_of_isAbsolute {path : String} (absolute : isAbsolute path = true) :
    ∃ rest, names path = "" :: rest := by
  rw [isAbsolute, beq_iff_eq] at absolute
  rw [names_eq]
  cases text : path.toList with
  | nil => simp [text] at absolute
  | cons c rest =>
      rw [text, List.head?_cons, Option.some_inj] at absolute
      subst absolute
      rw [List.splitOn_cons_eq_if_modifyHead, if_pos (beq_self_eq_true _), List.map_cons,
        String.ofList_nil]
      exact ⟨_, rfl⟩

theorem isAbsolute_of_isStep {name : String} (proper : IsStep name) : isAbsolute name = false := by
  by_contra absolute
  rcases names_of_isAbsolute ((Bool.not_eq_false _).mp absolute) with ⟨rest, named⟩
  rw [names_of_single proper.single] at named
  cases List.head_eq_of_cons_eq named
  exact absurd proper.leads (by decide)

/-! ## Roots -/

/-- The slashes that a path can keep at its start. -/
def roots : List String := ["", "/", "//"]

theorem root_mem_roots (path : String) : root path ∈ roots := by
  unfold root
  split <;> decide

/-- The slashes at the start of a text. -/
def slashes (text : List Char) : List Char := text.takeWhile (· == '/')

/-- The root of a path that starts with this many slashes. -/
def rootOf : (count : Nat) → String
  | 0 => ""
  | 1 => "/"
  | 2 => "//"
  | _ + 3 => "/"

theorem slashes_eq_nil {text : List Char} (relative : text.head? ≠ some '/') :
    slashes text = [] := by
  cases text with
  | nil => rfl
  | cons c rest =>
      have different : c ≠ '/' := by simpa using relative
      simp [slashes, different]

theorem slashes_cons (text : List Char) : slashes ('/' :: text) = '/' :: slashes text := rfl

theorem root_eq (path : String) : root path = rootOf (slashes path.toList).length := by
  have ends (text : List Char) (other : ∀ rest, text = '/' :: rest → False) : slashes text = [] :=
    slashes_eq_nil fun starts => other _ (List.head?_eq_some_iff.mp starts).choose_spec
  unfold root
  split
  · rename_i text
    rw [text, slashes_cons, slashes_cons, slashes_cons]
    rfl
  · rename_i rest other text
    rw [text, slashes_cons, slashes_cons, ends rest other]
    rfl
  · rename_i rest _ other text
    rw [text, slashes_cons, ends rest other]
    rfl
  · rename_i other
    rw [ends _ other]
    rfl

theorem root_append (front : String) {back : String} (relative : isAbsolute back = false) :
    root (front ++ back) = root front := by
  have ended : slashes back.toList = [] := slashes_eq_nil (by simpa [isAbsolute] using relative)
  rw [root_eq, root_eq, String.toList_append]
  unfold slashes at ended ⊢
  rw [List.takeWhile_append, ended]
  split
  · rename_i whole
    rw [List.append_nil, whole]
  · rfl

theorem isAbsolute_eq (path : String) : isAbsolute path = (root path != "") := by
  rw [isAbsolute, root_eq]
  by_cases absolute : path.toList.head? = some '/'
  · rcases List.head?_eq_some_iff.mp absolute with ⟨rest, text⟩
    rw [text, slashes_cons, List.length_cons]
    rcases (slashes rest).length with - | - | count <;> rfl
  · rw [slashes_eq_nil absolute]
    simpa [rootOf] using absolute

theorem root_eq_self {start : String} (rooted : start ∈ roots) : root start = start := by
  revert start
  decide

/-! ## Tidy paths -/

section Written

variable {start : String} {taken : List String}

theorem isAbsolute_intercalate (proper : ∀ name ∈ taken, IsStep name) (nonempty : taken ≠ []) :
    isAbsolute ("/".intercalate taken) = false := by
  by_contra absolute
  rcases names_of_isAbsolute ((Bool.not_eq_false _).mp absolute) with ⟨rest, same⟩
  rw [names_intercalate nonempty fun name member => (proper name member).single] at same
  exact absurd (proper "" (same ▸ List.mem_cons_self)).leads (by decide)

theorem written_eq (proper : ∀ name ∈ taken, IsStep name) (nonempty : taken ≠ []) :
    written start taken = start ++ "/".intercalate taken := by
  have named := names_intercalate nonempty fun name member => (proper name member).single
  refine if_neg fun empty => ?_
  rw [beq_iff_eq, String.append_eq_empty_iff] at empty
  rw [empty.2] at named
  exact absurd (proper "" (named ▸ by decide)).leads (by decide)

/-- A written path has the names of its steps behind names that lead nowhere. -/
theorem names_written (rooted : start ∈ roots) (proper : ∀ name ∈ taken, IsStep name) :
    ∃ front, (∀ name ∈ front, isTrivial name = true) ∧
      names (written start taken) = front ++ taken := by
  by_cases empty : taken = []
  · subst empty
    exact ⟨names (written start []), by revert start; decide, (List.append_nil _).symm⟩
  · have named := names_intercalate empty fun name member => (proper name member).single
    have slash (path : String) : names ("/" ++ path) = "" :: names path := names_append "" path
    have slashes (path : String) : names ("//" ++ path) = "" :: "" :: names path :=
      names_append "/" path
    rw [written_eq proper empty]
    simp only [roots, List.mem_cons, List.not_mem_nil, or_false] at rooted
    rcases rooted with rfl | rfl | rfl
    · exact ⟨[], by simp, by simp [named]⟩
    · exact ⟨[""], by decide, by simp [slash, named]⟩
    · exact ⟨["", ""], by decide, by simp [slashes, named]⟩

theorem steps_written (rooted : start ∈ roots) (proper : ∀ name ∈ taken, IsStep name) :
    steps (written start taken) = taken := by
  rcases names_written rooted proper with ⟨front, trivial, named⟩
  have gone : front.filter (fun name => !isTrivial name) = [] :=
    List.filter_eq_nil_iff.mpr fun name member => by simp [trivial name member]
  have kept : taken.filter (fun name => !isTrivial name) = taken :=
    List.filter_eq_self.mpr fun name member => by simp [(proper name member).leads]
  rw [steps, named, List.filter_append, gone, kept, List.nil_append]

theorem root_written (rooted : start ∈ roots) (proper : ∀ name ∈ taken, IsStep name) :
    root (written start taken) = start := by
  by_cases empty : taken = []
  · subst empty
    revert start
    decide
  · rw [written_eq proper empty, root_append start (isAbsolute_intercalate proper empty),
      root_eq_self rooted]

/-- A path of some of the first steps of a path is a part of its text. -/
theorem written_append {next : String} {rest : List String}
    (proper : ∀ name ∈ taken ++ next :: rest, IsStep name) :
    written start taken = "." ∨
      ∃ back, written start (taken ++ next :: rest) = written start taken ++ back := by
  rw [written_eq proper (by simp), written]
  by_cases empty : (start ++ "/".intercalate taken == "") = true
  · exact .inl (if_pos empty)
  · refine .inr ?_
    rw [if_neg empty]
    cases taken with
    | nil => exact ⟨"/".intercalate (next :: rest), by simp⟩
    | cons first others =>
        refine ⟨"/" ++ "/".intercalate (next :: rest), ?_⟩
        rw [String.intercalate_append_of_ne_nil (List.cons_ne_nil _ _) (List.cons_ne_nil _ _)]
        simp only [String.append_assoc]

end Written

theorem steps_tidy (path : String) : steps (tidy path) = steps path :=
  steps_written (root_mem_roots path) fun _ => isStep_of_mem_steps

theorem root_tidy (path : String) : root (tidy path) = root path :=
  root_written (root_mem_roots path) fun _ => isStep_of_mem_steps

theorem tidy_tidy (path : String) : tidy (tidy path) = tidy path := by
  rw [tidy_eq_written, steps_tidy, root_tidy, ← tidy_eq_written]

/-! ## Paths seen from a directory -/

section Join

variable (directory : String) {path : String} (relative : isAbsolute path = false)
include relative

/-- A path behind a directory is behind a slash. -/
theorem join_cases :
    directory = "" ∧ join directory path = path ∨
      (∃ front, directory = front ++ "/" ∧ join directory path = directory ++ path) ∨
      ∃ front c, c ≠ '/' ∧ directory = front ++ String.ofList [c] ∧
        join directory path = directory ++ "/" ++ path := by
  rw [join, if_neg (by simp [relative])]
  rcases List.eq_nil_or_concat directory.toList with empty | ⟨front, last, text⟩
  · have empty : directory = "" := String.toList_inj.mp empty
    subst empty
    exact .inl ⟨rfl, by simp⟩
  · have shape : directory = String.ofList front ++ String.ofList [last] :=
      String.toList_inj.mp (by simp [text])
    by_cases slash : last = '/'
    · subst slash
      exact .inr (.inl ⟨_, shape, if_pos (by simp [text])⟩)
    · refine .inr (.inr ⟨_, last, slash, shape, if_neg ?_⟩)
      rw [shape]
      simp [slash]

theorem steps_join : steps (join directory path) = steps directory ++ steps path := by
  rcases join_cases directory relative with
    ⟨rfl, same⟩ | ⟨front, rfl, same⟩ | ⟨front, c, -, -, same⟩
  · rw [same]
    rfl
  · have ended : steps (front ++ "/" ++ "") = steps front ++ [] := steps_append front ""
    rw [String.append_empty, List.append_nil] at ended
    rw [same, steps_append, ended]
  · rw [same, steps_append]

theorem root_join : root (join directory path) = root directory := by
  rcases join_cases directory relative with
    ⟨rfl, same⟩ | ⟨front, rfl, same⟩ | ⟨front, c, different, rfl, same⟩
  · rw [same]
    exact root_append "" relative
  · rw [same, root_append _ relative]
  · have last (back : String) : isAbsolute (String.ofList [c] ++ back) = false := by
      simp [isAbsolute, different]
    have closed := root_append front (last "")
    rw [String.append_empty] at closed
    rw [same, closed, String.append_assoc, String.append_assoc, root_append _ (last _)]

theorem steps_below : steps (below directory path) = steps directory ++ steps path := by
  rw [below, steps_tidy, steps_join directory relative]

theorem root_below : root (below directory path) = root directory := by
  rw [below, root_tidy, root_join directory relative]

theorem below_eq_written :
    below directory path = written (root directory) (steps directory ++ steps path) := by
  rw [below, tidy_eq_written, steps_join directory relative, root_join directory relative]

end Join

theorem below_tidy (directory path : String) :
    below (tidy directory) path = below directory path := by
  by_cases absolute : isAbsolute path = true
  · simp only [below, join, absolute, ↓reduceIte]
  · have relative := (Bool.not_eq_true _).mp absolute
    rw [below_eq_written _ relative, below_eq_written _ relative, steps_tidy, root_tidy]

theorem below_of_isTrivial (directory : String) {name : String} (trivial : isTrivial name = true)
    (path : String) (relative : isAbsolute path = false) :
    below (below directory name) path = below directory path := by
  have relativeName : isAbsolute name = false := by
    rcases Bool.or_eq_true _ _ ▸ trivial with empty | dot
    · rw [eq_of_beq empty]
      decide
    · rw [eq_of_beq dot]
      decide
  rw [below_eq_written _ relative, below_eq_written _ relative, steps_below _ relativeName,
    root_below _ relativeName, steps_of_isTrivial trivial, List.append_nil]

/-- Two steps below a directory. -/
theorem below_below_eq_written (directory : String) {child name : String} (proper : IsStep child)
    (last : IsStep name) :
    below (below directory child) name =
      written (root directory) (steps directory ++ [child, name]) := by
  rw [below_eq_written _ (isAbsolute_of_isStep last), steps_below _ (isAbsolute_of_isStep proper),
    root_below _ (isAbsolute_of_isStep proper), steps_of_isStep proper, steps_of_isStep last,
    List.append_assoc, List.singleton_append]

theorem isStep_of_mem_below {directory child name step : String} (proper : IsStep child)
    (last : IsStep name) (member : step ∈ steps directory ++ [child, name]) : IsStep step := by
  rcases List.mem_append.mp member with before | behind
  · exact isStep_of_mem_steps before
  · rcases List.mem_pair.mp behind with rfl | rfl
    · exact proper
    · exact last

end Runbook.Files.Path
