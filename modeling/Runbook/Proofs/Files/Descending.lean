import Runbook.Proofs.Files.Writing
import Runbook.Proofs.Results
import Runbook.TextFile

/-! # Paths through directories

Whoever follows a path to its end has first followed its beginning, so what a path leads to
lies in what the beginning of the path leads to.
-/

namespace Runbook.Files

theorem Entries.mem_names_of_get? {entries : Entries} {name : String} {node : Node}
    (found : entries.get? name = some node) : name ∈ entries.toList.map (·.1) := by
  fun_induction get? entries name with
  | case1 => cases found
  | case2 node rest name => exact List.mem_cons_self
  | case3 first other rest name different induction => exact List.mem_cons_of_mem _ (induction found)

/-! ## Beginnings of paths -/

section Follow

variable {root : Node} {final : Bool} {here names front back : List String} {place : Place}
  {links : Nat}

section FollowNames

variable {jump stop : List String → Bool → List String → Except Fault Place}

/-- Names that lead on, and do not only tell by slashes that there is a directory. -/
def LeadsOn (names : List String) : Prop := ∃ name ∈ names, name ≠ ""

theorem exists_directory_of_followNames (onward : LeadsOn names)
    (ended : followNames root final jump here names = .ok place) :
    ∃ entries, root.get? here.reverse = some (.directory entries) := by
  induction names with
  | nil => exact absurd onward (by simp [LeadsOn])
  | cons name rest induction =>
      unfold followNames at ended
      split at ended
      · cases ended
      · exact ⟨_, ‹_›⟩
      · split at ended
        · rename_i empty
          exact induction (by simpa [LeadsOn, beq_iff_eq.mp empty] using onward) ended
        · cases ended
      · cases ended

theorem followNames_trivial {entries : Entries}
    (there : root.get? here.reverse = some (.directory entries))
    (trivial : ∀ name ∈ front, Path.isTrivial name = true) :
    followNames root final jump here (front ++ back) = followNames root final jump here back := by
  induction front with
  | nil => rfl
  | cons name front induction =>
      rcases List.forall_mem_cons.mp trivial with ⟨first, others⟩
      rw [List.cons_append, followNames, there]
      simpa only [first, ↓reduceIte] using induction others

/-- Names that lead to an end lead to it by way of where the first of them lead. Links are
followed on both ways; what holds of their ends is left open here. -/
theorem exists_followNames_append {Onward : List String → Prop} (more : LeadsOn back)
    (onward : ∀ mid, followNames root final jump mid.reverse back = .ok place → Onward mid)
    (jumps : ∀ here absolute names, jump here absolute (names ++ back) = .ok place →
      ∃ mid, stop here absolute names = .ok ⟨mid, root.get? mid⟩ ∧ Onward mid)
    (ended : followNames root final jump here (front ++ back) = .ok place) :
    ∃ mid, followNames root true stop here front = .ok ⟨mid, root.get? mid⟩ ∧ Onward mid := by
  induction front generalizing here with
  | nil => exact ⟨here.reverse, rfl, onward _ (by rwa [List.reverse_reverse])⟩
  | cons name front induction =>
      have whole : LeadsOn (name :: front ++ back) :=
        more.imp fun _ last => ⟨List.mem_append_right _ last.1, last.2⟩
      rcases exists_directory_of_followNames whole ended with ⟨entries, there⟩
      rw [List.cons_append] at ended
      rw [followNames, there] at ended ⊢
      dsimp only at ended ⊢
      have unfinished : (front ++ back).isEmpty = false := by
        rcases more with ⟨last, member, -⟩
        simp [List.ne_nil_of_mem member]
      by_cases trivial : Path.isTrivial name
      · rw [if_pos trivial] at ended ⊢
        exact induction ended
      rw [if_neg trivial] at ended ⊢
      by_cases up : name == ".."
      · rw [if_pos up] at ended ⊢
        exact induction ended
      rw [if_neg up] at ended ⊢
      by_cases long : nameLimit < name.utf8ByteSize
      · rw [if_pos long] at ended
        cases ended
      rw [if_neg long] at ended ⊢
      cases found : entries.get? name with
      | none =>
          rw [found] at ended
          simp [unfinished] at ended
      | some node =>
          rw [found] at ended
          cases node with
          | file | directory | closed => exact induction ended
          | link target =>
              -- More names come behind this one on the whole way, so the link is followed there,
              -- and it is followed on the way to the middle because that one follows all links.
              simp only [unfinished, Bool.false_and, Bool.false_eq_true, ↓reduceIte, Bool.not_true,
                Bool.and_false] at ended ⊢
              split at ended
              · cases ended
              · rename_i nonempty
                rw [if_neg nonempty]
                exact jumps _ _ _ (by rwa [List.append_assoc])

end FollowNames

theorem exists_follow_eq (root : Node) (final : Bool) (links : Nat) :
    ∃ jump, ∀ here names,
      follow root final links here names = followNames root final jump here names := by
  cases links <;> exact ⟨_, fun _ _ => rfl⟩

/-- Why a path cannot be followed: it leads nowhere, a name on it is too long, or it leads into a
closed directory. -/
def Obstructs (fault : Fault) : Prop :=
  fault.isAbsence = true ∨ fault = .nameTooLong ∨ fault = .denied

theorem obstructs_of_followNames {jump : List String → Bool → List String → Except Fault Place}
    {fault : Fault} (jumps : ∀ here absolute names,
      jump here absolute names = .error fault → Obstructs fault)
    (ended : followNames root final jump here names = .error fault) : Obstructs fault := by
  fun_induction followNames root final jump here names with
  | case1 | case6 => cases ended
  | case2 | case7 | case11 | case14 =>
      cases ended
      exact .inl rfl
  | case3 here name rest entries there trivial induction => exact induction ended
  | case4 here name rest entries there _ _ induction => exact induction ended
  | case5 =>
      cases ended
      exact .inr (.inl rfl)
  | case8 => exact jumps _ _ _ ended
  | case9 here name rest entries there _ _ _ node _ found induction => exact induction ended
  | case10 => cases ended
  | case12 here name rest there empty induction => exact induction ended
  | case13 =>
      cases ended
      exact .inr (.inr rfl)

theorem obstructs_of_follow {fault : Fault}
    (ended : follow root final links here names = .error fault) : Obstructs fault := by
  induction links generalizing here names with
  | zero =>
      refine obstructs_of_followNames (fun _ _ _ jumped => ?_) ended
      cases jumped
      exact .inl rfl
  | succ links induction => exact obstructs_of_followNames (fun _ _ _ => induction) ended

theorem exists_directory_of_follow (onward : LeadsOn names)
    (ended : follow root final links here names = .ok place) :
    ∃ entries, root.get? here.reverse = some (.directory entries) := by
  rcases exists_follow_eq root final links with ⟨jump, same⟩
  rw [same] at ended
  exact exists_directory_of_followNames onward ended

/-- Names that lead nowhere can be left out. -/
theorem follow_trivial {entries : Entries}
    (there : root.get? here.reverse = some (.directory entries))
    (trivial : ∀ name ∈ front, Path.isTrivial name = true) :
    follow root final links here (front ++ back) = follow root final links here back := by
  rcases exists_follow_eq root final links with ⟨jump, same⟩
  rw [same, same, followNames_trivial there trivial]

theorem exists_follow_append (more : LeadsOn back)
    (ended : follow root final links here (front ++ back) = .ok place) :
    ∃ mid, follow root true links here front = .ok ⟨mid, root.get? mid⟩ ∧
      ∃ remaining, follow root final remaining mid.reverse back = .ok place := by
  induction links generalizing here front with
  | zero =>
      exact exists_followNames_append more (fun mid onward => ⟨0, onward⟩)
        (fun _ _ _ failed => by cases failed) ended
  | succ links induction =>
      exact exists_followNames_append more (fun mid onward => ⟨links + 1, onward⟩)
        (fun _ _ _ jumped => induction jumped) ended

theorem leadsOn_cons {child : String} (proper : Path.isTrivial child = false)
    (names : List String) : LeadsOn (child :: names) := by
  refine ⟨child, List.mem_cons_self, ?_⟩
  rintro rfl
  cases proper

/-- Names that go on behind a proper one lead through a directory that has an entry with it. -/
theorem exists_entry_of_follow {child : String} (proper : Path.isTrivial child = false)
    (down : child ≠ "..") (more : back ≠ [])
    (ended : follow root final links here (child :: back) = .ok place) :
    ∃ entries, root.get? here.reverse = some (.directory entries) ∧
      child ∈ entries.toList.map (·.1) := by
  rcases exists_follow_eq root final links with ⟨jump, same⟩
  rw [same] at ended
  rcases exists_directory_of_followNames (leadsOn_cons proper back) ended with ⟨entries, there⟩
  refine ⟨entries, there, ?_⟩
  cases found : entries.get? child with
  | some node => exact Entries.mem_names_of_get? found
  | none =>
      rw [followNames, there] at ended
      simp only [proper, Bool.false_eq_true, ↓reduceIte, beq_iff_eq, down, found,
        List.isEmpty_iff, more] at ended
      split at ended <;> cases ended

end Follow

/-- A text that can be followed as a path. -/
structure Path.Followable (path : String) : Prop where
  nonempty : path ≠ ""
  plain : '\x00' ∉ path.toList
  short : path.utf8ByteSize < pathLimit

theorem Path.Followable.of_append {path back : String} (followable : Followable (path ++ back))
    (nonempty : path ≠ "") : Followable path where
  nonempty
  plain member := followable.plain (by simp [member])
  short := by
    have whole := followable.short
    rw [String.utf8ByteSize_append] at whole
    omega

theorem Path.followable_dot : Followable "." := ⟨by decide, by decide, by decide⟩

namespace FileSystem

variable {files : FileSystem} {directory path : String}

/-- Where paths start that have this root. -/
def startOf (files : FileSystem) (root : String) : List String :=
  if root != "" then [] else files.workingDirectory.reverse

theorem look_eq_ok_iff {found : List String × Node} :
    files.look path = .ok found ↔ Path.Followable path ∧
      follow files.root true linkLimit (files.startOf (Path.root path)) (Path.names path) =
        .ok ⟨found.1, some found.2⟩ := by
  unfold look locate
  rw [Path.isAbsolute_eq, ← startOf]
  by_cases null : path.toList.contains '\x00'
  · rw [if_pos null]
    exact ⟨fun failed => (by cases failed), fun ⟨followable, _⟩ =>
      absurd (List.contains_iff_mem.mp null) followable.plain⟩
  rw [if_neg null]
  by_cases empty : path = ""
  · rw [if_pos (beq_iff_eq.mpr empty)]
    exact ⟨fun failed => (by cases failed), fun ⟨followable, _⟩ => absurd empty followable.nonempty⟩
  rw [if_neg (by simpa using empty)]
  by_cases long : pathLimit ≤ path.utf8ByteSize
  · rw [if_pos long]
    exact ⟨fun failed => (by cases failed), fun ⟨followable, _⟩ =>
      absurd followable.short (Nat.not_lt.mpr long)⟩
  rw [if_neg long]
  have followable : Path.Followable path := ⟨empty, by simpa using null, Nat.lt_of_not_le long⟩
  rcases follow files.root true linkLimit (files.startOf (Path.root path)) (Path.names path) with
    fault | ⟨names, none | node⟩ <;> simp [followable, Prod.ext_iff]

theorem probe_eq_some_iff {node : Node} :
    files.probe path = .ok (some node) ↔ ∃ names, files.look path = .ok (names, node) := by
  unfold probe
  split
  · simp_all
  · split <;> simp_all
  · simp_all

theorem leadsToFile_eq_true_iff :
    files.leadsToFile path = .ok true ↔
      ∃ content, files.probe path = .ok (some (.file content)) := by
  rw [leadsToFile, Results.bind_eq_ok_iff]
  simp only [orFault, Results.mapError_eq_ok_iff]
  constructor
  · rintro ⟨found, probed, leads⟩
    split at leads
    · exact ⟨_, probed⟩
    · cases leads
  · rintro ⟨content, probed⟩
    exact ⟨_, probed, rfl⟩

theorem look_eq_error_at {other : String} {fault : Fault}
    (failed : files.look path = .error (.at fault other)) : other = path := by
  unfold look at failed
  split at failed
  · cases failed
  · split at failed
    · cases failed
    · cases failed
      rfl
    · cases failed
      rfl

/-- A path cannot be followed, and that is not because it leads nowhere. -/
def Blocked (files : FileSystem) (path : String) (fault : Fault) : Prop :=
  files.look path = .error (.at fault path) ∧ fault.isAbsence = false

theorem Blocked.fault {fault : Fault} (blocked : files.Blocked path fault) :
    fault = .nameTooLong ∨ fault = .denied := by
  rcases blocked with ⟨looked, present⟩
  have obstructs : Obstructs fault := by
    unfold look locate at looked
    split at looked
    · cases looked
    · split at looked
      · cases looked
      · cases looked
        exact .inl rfl
      · rename_i located
        cases looked
        split at located
        · cases located
          exact .inl rfl
        · split at located
          · cases located
            exact .inr (.inl rfl)
          · exact obstructs_of_follow located
  exact obstructs.resolve_left (by simp [present])

theorem probe_eq_error_iff {error : Error} :
    files.probe path = .error error ↔
      ∃ fault, files.Blocked path fault ∧ error = .at fault path := by
  unfold probe
  constructor
  · intro failed
    split at failed
    · cases failed
    · rename_i fault other looked
      cases look_eq_error_at looked
      split at failed
      · cases failed
      · rename_i blocked
        cases failed
        exact ⟨fault, ⟨looked, (Bool.not_eq_true _).mp blocked⟩, rfl⟩
    · cases failed
  · rintro ⟨fault, ⟨looked, blocked⟩, rfl⟩
    rw [looked]
    exact if_neg (by simp [blocked])

/-- Looking for something fails only at a path that is blocked. -/
theorem leadsToDirectory_eq_error_iff {problem : Runbook.Fault} :
    files.leadsToDirectory path = .error problem ↔
      ∃ fault, files.Blocked path fault ∧ problem = .files (.at fault path) := by
  rw [leadsToDirectory, Results.bind_eq_error_iff]
  simp only [orFault, Results.mapError_eq_error_iff, probe_eq_error_iff]
  constructor
  · rintro (⟨error, ⟨fault, blocked, rfl⟩, rfl⟩ | ⟨found, _, led⟩)
    · exact ⟨fault, blocked, rfl⟩
    · cases led
  · rintro ⟨fault, blocked, rfl⟩
    exact .inl ⟨_, ⟨fault, blocked, rfl⟩, rfl⟩

/-- A path to a file in a child of a directory leads through that directory. -/
theorem exists_entry_of_leadsToFile {child name : String} (proper : Path.IsStep child)
    (down : child ≠ "..") (last : Path.IsStep name)
    (leads : files.leadsToFile (Path.below (Path.below directory child) name) = .ok true) :
    ∃ entries, files.probe (Path.tidy directory) = .ok (some (.directory entries)) ∧
      child ∈ entries.toList.map (·.1) := by
  have rooted := Path.root_mem_roots directory
  have before : ∀ step ∈ Path.steps directory, Path.IsStep step := fun _ => Path.isStep_of_mem_steps
  have all : ∀ step ∈ Path.steps directory ++ [child, name], Path.IsStep step :=
    fun _ => Path.isStep_of_mem_below proper last
  rcases leadsToFile_eq_true_iff.mp leads with ⟨content, probed⟩
  rcases probe_eq_some_iff.mp probed with ⟨place, looked⟩
  rcases look_eq_ok_iff.mp looked with ⟨followable, followed⟩
  rw [Path.below_below_eq_written _ proper last] at followable followed
  rw [Path.root_written rooted all] at followed
  -- The two paths may start with different names that lead nowhere.
  rcases Path.names_written rooted all with ⟨front, trivial, named⟩
  rcases Path.names_written rooted before with ⟨frontBefore, trivialBefore, namedBefore⟩
  rw [named] at followed
  have onward : LeadsOn (front ++ (Path.steps directory ++ [child, name])) :=
    ⟨child, by simp, fun empty => by cases empty ▸ proper.leads⟩
  rcases exists_directory_of_follow onward followed with ⟨entries, there⟩
  rw [follow_trivial there trivial] at followed
  rcases exists_follow_append (leadsOn_cons proper.leads _) followed with
    ⟨mid, led, remaining, onward⟩
  rcases exists_entry_of_follow proper.leads down (List.cons_ne_nil _ _) onward with
    ⟨held, parent, member⟩
  rw [List.reverse_reverse] at parent
  refine ⟨held, probe_eq_some_iff.mpr ⟨mid, look_eq_ok_iff.mpr ⟨?_, ?_⟩⟩, member⟩
  · rw [Path.tidy_eq_written]
    rcases Path.written_append all with dot | ⟨rest, longer⟩
    · rw [dot]
      exact Path.followable_dot
    · rw [longer] at followable
      exact followable.of_append Path.written_ne_empty
  · rw [Path.tidy_eq_written, Path.root_written rooted before, namedBefore,
      follow_trivial there trivialBefore, led, parent]

end FileSystem

end Runbook.Files
