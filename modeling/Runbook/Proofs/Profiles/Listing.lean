import Runbook.Proofs.Profiles.Lookup

/-! # Listing profiles

The profiles that are listed are those that are held in some entry of a directory. A profile is
listed under the name that it has in its file, and looked up under the name of the entry, so the
two agree only as far as these names do.
-/

namespace Runbook.Profiles

open Files (FileSystem)

/-- What is listed is what is found, each profile under its own name. -/
def Agrees (profiles : Profiles) (files : FileSystem) (shown : List Profile) : Prop :=
  ∀ name profile, (profiles.resolve files name).outcome.1 = .ok (some profile) ↔
    profile ∈ shown ∧ profile.name = name

/-! ## Profiles that are given -/

theorem nodup_byName (profiles : List Profile) : ((byName profiles).map (·.1)).Nodup :=
  Association.nodup_setAll (by simp) _

theorem name_of_mem_byName {profiles : List Profile} {entry : String × Profile}
    (member : entry ∈ byName profiles) : entry.1 = entry.2.name := by
  rcases Association.mem_of_mem_setAll member with absurd | given
  · cases absurd
  · rcases List.mem_map.mp given with ⟨profile, -, rfl⟩
    rfl

theorem mem_sorted_byName_iff {profiles : List Profile} {profile : Profile} :
    profile ∈ (Association.sorted (byName profiles)).map (·.2) ↔
      (profile.name, profile) ∈ byName profiles := by
  rw [List.mem_map]
  constructor
  · rintro ⟨entry, member, rfl⟩
    have member := List.mem_mergeSort.mp member
    rwa [← name_of_mem_byName member]
  · exact fun member => ⟨_, List.mem_mergeSort.mpr member, rfl⟩

theorem agrees_listed (profiles : List Profile) (files : FileSystem) :
    ∃ shown, ((listed profiles).list files).outcome.1 = .ok shown ∧
      Agrees (listed profiles) files shown := by
  refine ⟨(Association.sorted (byName profiles)).map (·.2), rfl, fun name profile => ?_⟩
  have found : ((listed profiles).resolve files name).outcome.1 =
    .ok ((byName profiles).lookup name) := rfl
  rw [found, Except.ok.injEq, Association.lookup_eq_some_iff_mem (nodup_byName profiles),
    mem_sorted_byName_iff]
  constructor
  · intro member
    have named : name = profile.name := name_of_mem_byName member
    exact ⟨named ▸ member, named.symm⟩
  · rintro ⟨member, rfl⟩
    exact member

/-! ## Profiles in a directory -/

variable {reader : Document.Reader}

/-- A directory holds a profile in one of its children. -/
def Holds (reader : Document.Reader) (files : FileSystem) (path child : String)
    (profile : Profile) : Prop :=
  (readDirectory reader files path child).outcome.1 = .ok (some profile)

/-- What the files in children of a directory come to. -/
def heldIn (reader : Document.Reader) (files : FileSystem) (path : String) :
    List String → Except Fault (List Profile)
  | [] => return []
  | child :: rest => do
      let profile ← inFile reader files (placeOf path child)
      let others ← heldIn reader files path rest
      return profile.toList ++ others

/-- What the files in all entries of a directory come to, sorted by name. -/
def listIn (reader : Document.Reader) (files : FileSystem) (path : String) :
    Except Fault (List Profile) := do
  match ← orFault .files (files.probe (Files.Path.tidy path)) with
  | some (.directory entries) =>
      let children := (entries.toList.map (·.1)).mergeSort fun a b => a ≤ b
      let profiles ← heldIn reader files path children
      return profiles.mergeSort fun a b => a.name ≤ b.name
  | some .closed => throw (.files (.at .denied (Files.Path.tidy path)))
  | _ => return []

section Directory

variable {files : FileSystem} {path name child : String} {profile : Profile}

theorem holds_iff : Holds reader files path child profile ↔
    inFile reader files (placeOf path child) = .ok (some profile) := by
  rw [Holds, (ends_readDirectory reader files path child).outcome]

theorem placeOf_tidy (path child : String) :
    placeOf (Files.Path.tidy path) child = placeOf path child := by
  rw [placeOf, placeOf, Files.Path.below_tidy]

theorem ends_readAll (reader : Document.Reader) (files : FileSystem) (path : String)
    (children : List String) :
    Logged.Ends (readAll reader files (Files.Path.tidy path) children)
      (heldIn reader files path children) := by
  induction children with
  | nil => exact .pure []
  | cons child rest induction =>
      have first := ends_readDirectory reader files (Files.Path.tidy path) child
      rw [placeOf_tidy] at first
      exact first.bind fun profile => induction.bind fun others => .pure _

theorem ends_list (reader : Document.Reader) (files : FileSystem) (path : String) :
    Logged.Ends ((directory reader path).list files) (listIn reader files path) := by
  refine (Logged.Ends.ofExcept _).bind fun found => ?_
  cases found with
  | none => exact .pure []
  | some node =>
      cases node with
      | directory entries => exact (ends_readAll reader files path _).bind fun profiles => .pure _
      | file | link => exact .pure []
      | closed => exact .throw _

theorem mem_heldIn_iff {children : List String} {profiles : List Profile}
    (held : heldIn reader files path children = .ok profiles) :
    profile ∈ profiles ↔ ∃ child ∈ children, Holds reader files path child profile := by
  induction children generalizing profiles with
  | nil =>
      cases held
      simp
  | cons child rest induction =>
      rcases Results.bind_eq_ok_iff.mp held with ⟨first, found, held⟩
      rcases Results.bind_eq_ok_iff.mp held with ⟨others, further, held⟩
      cases held
      rw [List.mem_append, induction further, Option.mem_toList]
      simp only [List.mem_cons, exists_eq_or_imp, holds_iff, found, Except.ok.injEq]

theorem mem_listIn_iff {shown : List Profile} (lists : listIn reader files path = .ok shown) :
    profile ∈ shown ↔ ∃ entries,
      files.probe (Files.Path.tidy path) = .ok (some (.directory entries)) ∧
        ∃ child ∈ entries.toList.map (·.1), Holds reader files path child profile := by
  rcases Results.bind_eq_ok_iff.mp lists with ⟨found, probed, lists⟩
  rw [Results.mapError_eq_ok_iff.mp probed]
  split at lists
  · rename_i entries
    rcases Results.bind_eq_ok_iff.mp lists with ⟨profiles, held, lists⟩
    cases lists
    rw [List.mem_mergeSort, mem_heldIn_iff held]
    simp
  · cases lists
  · rename_i other _
    cases lists
    simp only [List.not_mem_nil, Except.ok.injEq, false_iff]
    rintro ⟨entries, rfl, -⟩
    exact other entries rfl

/-- A profile under an ordinary name is listed. -/
theorem mem_shown_of_resolve {shown : List Profile} (lists : listIn reader files path = .ok shown)
    (proper : name ∉ strayNames)
    (found : ((directory reader path).resolve files name).outcome.1 = .ok (some profile)) :
    profile ∈ shown := by
  rcases exists_entry_of_resolve proper found with ⟨entries, probed, member⟩
  exact (mem_listIn_iff lists).mpr ⟨entries, probed, _, member, found⟩

/-- What is listed agrees with what is found if each profile that is listed is held in the
directory that its name leads to, and each directory that a name can lead to holds a listed profile
with the name of the directory, which has no character that stands for others. -/
theorem agrees_directory_iff {shown : List Profile} :
    Agrees (directory reader path) files shown ↔
      (∀ profile ∈ shown, Holds reader files path (directoryName profile.name) profile) ∧
        ∀ child profile, (∀ c ∈ child.toList, isSafe c = true) →
          Holds reader files path child profile →
          profile ∈ shown ∧ profile.name = child ∧ '_' ∉ child.toList := by
  constructor
  · intro agrees
    refine ⟨fun profile member => (agrees profile.name profile).mpr ⟨member, rfl⟩, ?_⟩
    intro child profile safe holds
    have reached {name : String} (leads : directoryName name = child) :
        profile ∈ shown ∧ profile.name = name := by
      rw [← leads] at holds
      exact (agrees name profile).mp holds
    rcases reached (directoryName_of_isSafe safe) with ⟨member, named⟩
    refine ⟨member, named, fun underscore => ?_⟩
    -- Two names would lead to one profile, which has one name.
    rcases exists_other_name safe underscore with ⟨other, different, leads⟩
    exact different ((reached leads).2.symm.trans named)
  · rintro ⟨housed, own⟩ name profile
    constructor
    · intro found
      rcases own _ profile (fun c => isSafe_of_mem_directoryName) found with ⟨member, named, plain⟩
      exact ⟨member, named.trans (directoryName_of_not_mem plain)⟩
    · rintro ⟨member, rfl⟩
      exact housed profile member

end Directory

/-! ## Agreement -/

/-- Profiles that are given are found under the names that they are listed under. Of a directory,
what is found under an ordinary name is listed, and the two agree if and only if the names of the
directories in it and the names of the profiles do. -/
theorem list_agrees_with_resolve {reader : Document.Reader} {files : FileSystem} {path : String}
    {shown : List Profile} (lists : ((directory reader path).list files).outcome.1 = .ok shown) :
    (∀ profiles, ∃ given, ((listed profiles).list files).outcome.1 = .ok given ∧
        Agrees (listed profiles) files given) ∧
      (∀ profile, profile ∈ shown ↔ ∃ entries,
        files.probe (Files.Path.tidy path) = .ok (some (.directory entries)) ∧
          ∃ child ∈ entries.toList.map (·.1), Holds reader files path child profile) ∧
      (∀ name profile, name ∉ ["", ".", ".."] →
        ((directory reader path).resolve files name).outcome.1 = .ok (some profile) →
        profile ∈ shown) ∧
      (Agrees (directory reader path) files shown ↔
        (∀ profile ∈ shown, Holds reader files path (directoryName profile.name) profile) ∧
          ∀ child profile, (∀ c ∈ child.toList, isSafe c = true) →
            Holds reader files path child profile →
            profile ∈ shown ∧ profile.name = child ∧ '_' ∉ child.toList) := by
  rw [(ends_list reader files path).outcome] at lists
  exact ⟨fun profiles => agrees_listed profiles files, fun _ => mem_listIn_iff lists,
    fun _ _ => mem_shown_of_resolve lists, agrees_directory_iff⟩

/-- A directory with one profile, whose name has a blank. -/
def spacedFiles : FileSystem :=
  ⟨.directory (.cons "envs" (.directory (.cons "my_env" (.directory (.cons "env.yaml"
    (.file "'name': 'my env'\n'executable': '/bin/m'\n".toUTF8) .nil)) .nil)) .nil), []⟩

def spacedProfile : Profile := ⟨"my env", "/bin/m", [], [], none⟩

theorem list_agrees_with_resolve_spaced :
    ((directory Document.read "envs").list spacedFiles).outcome.1 = .ok [spacedProfile] ∧
      ((directory Document.read "envs").resolve spacedFiles "my_env").outcome.1 =
        .ok (some spacedProfile) ∧
        ¬Agrees (directory Document.read "envs") spacedFiles [spacedProfile] := by
  have lists : ((directory Document.read "envs").list spacedFiles).outcome.1 =
      .ok [spacedProfile] := by
    decide +kernel
  have found : ((directory Document.read "envs").resolve spacedFiles "my_env").outcome.1 =
      .ok (some spacedProfile) := by
    decide +kernel
  refine ⟨lists, found, fun agrees => ?_⟩
  have safe : ∀ c ∈ "my_env".toList, isSafe c = true := List.all_eq_true.mp (by decide)
  have own := ((list_agrees_with_resolve lists).2.2.2.mp agrees).2 "my_env" spacedProfile safe found
  exact absurd own.2.1 (by decide)

end Runbook.Profiles
