import Runbook.Document.Build
import Runbook.Proofs.Files.Descending
import Runbook.Proofs.Logged
import Runbook.Profiles

/-! # Looking up profiles

A profile is looked up by name in a directory that holds one directory for each profile. The
name says which of these directories to look into, and the profile that is found there says
itself what its name is. Nothing makes the two names agree.
-/

namespace Runbook.Profiles

open Files (FileSystem)

/-! ## Results -/

variable {reader : Document.Reader}

/-- What a file comes to. -/
def inFile (reader : Document.Reader) (files : FileSystem) (path : String) :
    Except Fault (Option Profile) := do
  if ← files.leadsToFile path then
    match files.readText path >>= ofText reader with
    | .ok profile => return some profile
    | .error fault => if isPassedOver fault then return none else .error fault
  else return none

/-- The file of the profile in a child of a directory. -/
def placeOf (path child : String) : String :=
  Files.Path.below (Files.Path.below path child) fileName

theorem tidy_placeOf (path child : String) :
    Files.Path.tidy (placeOf path child) = placeOf path child := by
  rw [placeOf, Files.Path.below, Files.Path.tidy_tidy]

theorem ends_ofFile (reader : Document.Reader) (files : FileSystem) (path : String) :
    Logged.Ends (ofFile reader files path) (inFile reader files (Files.Path.tidy path)) := by
  refine (Logged.Ends.ofExcept _).bind fun leads => ?_
  cases leads with
  | false => exact .pure none
  | true =>
      cases files.readText (Files.Path.tidy path) >>= ofText reader with
      | ok profile => exact .pure _
      | error fault =>
          by_cases passed : isPassedOver fault
          · simp only [passed, ↓reduceIte]
            exact .record _ _ (.pure none)
          · simp only [passed, Bool.false_eq_true, ↓reduceIte]
            exact .throw fault

theorem ends_readDirectory (reader : Document.Reader) (files : FileSystem) (path child : String) :
    Logged.Ends (readDirectory reader files path child)
      (inFile reader files (placeOf path child)) := by
  have ends := ends_ofFile reader files (placeOf path child)
  rwa [tidy_placeOf] at ends

theorem ends_resolve_directory (reader : Document.Reader) (files : FileSystem)
    (path name : String) :
    Logged.Ends ((directory reader path).resolve files name)
      (inFile reader files (placeOf path (directoryName name))) :=
  ends_readDirectory reader files path (directoryName name)

theorem steady_resolve (profiles : Profiles) (files : FileSystem) (name : String) :
    Logged.Steady (profiles.resolve files name) := by
  cases profiles with
  | listed profiles => exact .pure _
  | directory reader path => exact (ends_resolve_directory reader files path name).steady

/-! ## Names of directories -/

section DirectoryName

variable {name : String} {c : Char}

theorem toList_directoryName (name : String) :
    (directoryName name).toList = name.toList.map fun c => if isSafe c then c else '_' :=
  String.toList_ofList

theorem isSafe_of_mem_directoryName (member : c ∈ (directoryName name).toList) :
    isSafe c = true := by
  rw [toList_directoryName] at member
  rcases List.mem_map.mp member with ⟨other, -, rfl⟩
  split
  · assumption
  · decide

theorem directoryName_of_isSafe (safe : ∀ c ∈ name.toList, isSafe c = true) :
    directoryName name = name := by
  apply String.toList_inj.mp
  rw [toList_directoryName]
  exact (List.map_congr_left fun c member => if_pos (safe c member)).trans (List.map_id' _)

/-- A directory without underscores is asked for by its own name alone. -/
theorem directoryName_of_not_mem (plain : '_' ∉ (directoryName name).toList) :
    directoryName name = name := by
  refine directoryName_of_isSafe fun c member => ?_
  by_contra replaced
  refine plain ?_
  rw [toList_directoryName]
  exact List.mem_map.mpr ⟨c, member, if_neg replaced⟩

/-- A directory with an underscore can be asked for by another name. -/
theorem exists_other_name (safe : ∀ c ∈ name.toList, isSafe c = true)
    (underscore : '_' ∈ name.toList) : ∃ other, other ≠ name ∧ directoryName other = name := by
  refine ⟨String.ofList (name.toList.map fun c => if c = '_' then ' ' else c), ?_, ?_⟩
  · intro same
    rw [← same, String.toList_ofList] at underscore
    rcases List.mem_map.mp underscore with ⟨c, -, replaced⟩
    split at replaced
    · cases replaced
    · contradiction
  · apply String.toList_inj.mp
    rw [toList_directoryName, String.toList_ofList, List.map_map]
    refine (List.map_congr_left fun c member => ?_).trans (List.map_id' _)
    by_cases mark : c = '_'
    · subst mark
      decide
    · simp [mark, safe c member]

end DirectoryName

/-! ## The file that is opened -/

/-- The file that is looked into for a profile. -/
def opened (path name : String) : String := placeOf path (directoryName name)

/-- The file of the profile in a child of a directory. -/
def IsInChild (path file : String) : Prop :=
  ∃ child, Files.Path.IsStep child ∧ child ≠ ".." ∧
    Files.Path.root file = Files.Path.root path ∧
      Files.Path.steps file = Files.Path.steps path ++ [child, fileName]

/-- The names under which no child of a directory can be found. -/
def strayNames : List String := ["", ".", ".."]

section Opened

variable {path name child : String}

theorem isStep_fileName : Files.Path.IsStep fileName := ⟨by decide, by decide⟩

theorem steps_placeOf (proper : Files.Path.IsStep child) :
    Files.Path.steps (placeOf path child) = Files.Path.steps path ++ [child, fileName] := by
  rw [placeOf, Files.Path.below_below_eq_written _ proper isStep_fileName]
  exact Files.Path.steps_written (Files.Path.root_mem_roots path)
    fun _ => Files.Path.isStep_of_mem_below proper isStep_fileName

theorem root_placeOf (proper : Files.Path.IsStep child) :
    Files.Path.root (placeOf path child) = Files.Path.root path := by
  rw [placeOf, Files.Path.below_below_eq_written _ proper isStep_fileName]
  exact Files.Path.root_written (Files.Path.root_mem_roots path)
    fun _ => Files.Path.isStep_of_mem_below proper isStep_fileName

theorem placeOf_of_isTrivial (trivial : Files.Path.isTrivial child = true) :
    placeOf path child = Files.Path.below path fileName :=
  Files.Path.below_of_isTrivial path trivial fileName (by decide)

theorem directoryName_eq_iff (stray : child ∈ strayNames) :
    directoryName name = child ↔ name = child := by
  have plain : '_' ∉ child.toList ∧ directoryName child = child := by
    revert child
    decide
  constructor
  · rintro rfl
    exact (directoryName_of_not_mem plain.1).symm
  · rintro rfl
    exact plain.2

theorem isStep_directoryName (proper : name ∉ strayNames) :
    Files.Path.IsStep (directoryName name) ∧ directoryName name ≠ ".." := by
  have other {stray : String} (member : stray ∈ strayNames) : directoryName name ≠ stray :=
    fun same => proper ((directoryName_eq_iff member).mp same ▸ member)
  refine ⟨⟨?_, fun slash => ?_⟩, other (by decide)⟩
  · rw [Files.Path.isTrivial, Bool.or_eq_false_iff, beq_eq_false_iff_ne, beq_eq_false_iff_ne]
    exact ⟨other (by decide), other (by decide)⟩
  · exact absurd (isSafe_of_mem_directoryName slash) (by decide)

theorem isTrivial_or_eq_of_stray (stray : name ∈ strayNames) :
    Files.Path.isTrivial name = true ∨ name = ".." := by
  revert name
  decide

theorem opened_dotdot : opened path ".." = placeOf path ".." := by
  rw [opened, (directoryName_eq_iff (by decide)).mpr rfl]

theorem opened_isInChild_iff : IsInChild path (opened path name) ↔ name ∉ strayNames := by
  constructor
  · rintro ⟨child, proper, down, -, steps⟩ stray
    rw [opened, (directoryName_eq_iff stray).mpr rfl] at steps
    rcases isTrivial_or_eq_of_stray stray with trivial | rfl
    · rw [placeOf_of_isTrivial trivial, Files.Path.steps_below _ (by decide),
        Files.Path.steps_of_isStep isStep_fileName] at steps
      cases List.append_cancel_left steps
    · rw [steps_placeOf ⟨by decide, by decide⟩] at steps
      cases List.append_cancel_left steps
      exact down rfl
  · intro proper
    rcases isStep_directoryName proper with ⟨step, down⟩
    exact ⟨_, step, down, root_placeOf step, steps_placeOf step⟩

end Opened

/-! ## What is found -/

theorem leadsToFile_of_inFile {files : FileSystem} {path : String} {profile : Profile}
    (found : inFile reader files path = .ok (some profile)) :
    files.leadsToFile path = .ok true := by
  rcases Results.bind_eq_ok_iff.mp found with ⟨leads, leadsToFile, found⟩
  cases leads with
  | true => exact leadsToFile
  | false => cases found

/-- A profile under an ordinary name is found in an entry of the directory. -/
theorem exists_entry_of_resolve {files : FileSystem} {path name : String} {profile : Profile}
    (proper : name ∉ strayNames)
    (found : ((directory reader path).resolve files name).outcome.1 = .ok (some profile)) :
    ∃ entries, files.probe (Files.Path.tidy path) = .ok (some (.directory entries)) ∧
      directoryName name ∈ entries.toList.map (·.1) := by
  rcases isStep_directoryName proper with ⟨step, down⟩
  rw [(ends_resolve_directory reader files path name).outcome] at found
  exact FileSystem.exists_entry_of_leadsToFile step down isStep_fileName
    (leadsToFile_of_inFile found)

theorem resolve_congr {files later : FileSystem} {path name : String}
    (leads : later.leadsToFile (opened path name) = files.leadsToFile (opened path name))
    (reads : later.readText (opened path name) = files.readText (opened path name)) :
    (directory reader path).resolve later name = (directory reader path).resolve files name := by
  change ofFile reader later (opened path name) = ofFile reader files (opened path name)
  rw [ofFile, ofFile, opened, tidy_placeOf, ← opened, leads, reads]

/-- Which file is opened for a name. It is the file of an entry of the directory, but for three
names: two of them lead to the directory itself, and one leads out of it. -/
theorem resolve_opens (reader : Document.Reader) (path name : String) :
    (∀ files later : FileSystem,
        later.leadsToFile (opened path name) = files.leadsToFile (opened path name) →
        later.readText (opened path name) = files.readText (opened path name) →
          (directory reader path).resolve later name =
            (directory reader path).resolve files name) ∧
      (IsInChild path (opened path name) ↔ name ∉ ["", ".", ".."]) ∧
      (name = "" ∨ name = "." → opened path name = Files.Path.below path fileName) ∧
      (name = ".." → Files.Path.root (opened path name) = Files.Path.root path ∧
        Files.Path.steps (opened path name) = Files.Path.steps path ++ ["..", fileName]) ∧
      ∀ files profile, name ∉ ["", ".", ".."] →
        ((directory reader path).resolve files name).outcome.1 = .ok (some profile) →
          ∃ entries, files.probe (Files.Path.tidy path) = .ok (some (.directory entries)) ∧
            directoryName name ∈ entries.toList.map (·.1) := by
  refine ⟨fun _ _ => resolve_congr, opened_isInChild_iff, ?_, ?_,
    fun _ _ => exists_entry_of_resolve⟩
  · rintro (rfl | rfl)
    · exact placeOf_of_isTrivial (by decide)
    · exact placeOf_of_isTrivial (by decide)
  · rintro rfl
    have up : Files.Path.IsStep ".." := ⟨by decide, by decide⟩
    rw [opened_dotdot]
    exact ⟨root_placeOf up, steps_placeOf up⟩

/-- A directory without profiles, beside a file with one. -/
def besideFiles : FileSystem :=
  ⟨.directory (.cons "envs" .emptyDirectory
    (.cons "env.yaml" (.file "'name': 'outside'\n'executable': '/bin/x'\n".toUTF8) .nil)), []⟩

theorem resolve_opens_beside :
    ((directory Document.read "envs").resolve besideFiles "..").outcome.1 =
        .ok (some ⟨"outside", "/bin/x", [], [], none⟩) ∧
      opened "envs" ".." = "envs/../env.yaml" ∧ ¬IsInChild "envs" (opened "envs" "..") := by
  refine ⟨by decide +kernel, by decide +kernel, fun inside => ?_⟩
  exact (resolve_opens Document.read "envs" "..").2.1.mp inside (by decide)

end Runbook.Profiles
