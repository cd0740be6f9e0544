import Runbook.Perform
import Runbook.Proofs.Files.Listing
import Runbook.Proofs.Run.Outcome

/-! # Listing commands

What a command that lists a directory stores is the listing, unless the listing fails. A listing
of everything below the directory cannot fail, and decides what all other listings of it hold. A
listing of the directory alone fails if a link in it cannot be followed, though the other listing
counts such a link as no directory.
-/

namespace Runbook

open Files (Entries FileSystem Node pathLimit)

namespace Perform

/-- The pattern that a text asks for, where characters have certain names. No text asks for
none. -/
inductive Requests (characters : Pattern.CharacterNames) : String → Option Pattern → Prop
  | nothing : Requests characters "" none
  | pattern {text : String} {pattern : Pattern} (nonempty : text ≠ "")
      (read : Pattern.ofText characters text = .ok pattern) :
      Requests characters text (some pattern)

variable {characters : Pattern.CharacterNames}

theorem outcome_optionalPattern {text : String} {pattern : Option Pattern}
    (requested : Requests characters text pattern) (state : State) :
    (optionalPattern characters text).outcome state = (some (.ok (.ok pattern)), state) := by
  cases requested with
  | nothing => rfl
  | pattern nonempty read =>
      rw [optionalPattern, if_neg (by simpa using nonempty), Run.outcome_bind, patternOf, read]
      rfl

/-- How a command ends that has come to a listing. -/
def concluded (command : Command) (given : Given) (state : State) :
    Except Files.Error (List String) → Option (Except Fault Ending) × State
  | .ok found =>
      let directory := given.settings.text "dir"
      let text := s!"{command.name}: {found.length} match(es) in {directory}"
      let noted := state.note (.logged ⟨.debug, text⟩)
      let bindings := noted.bindings.set (given.settings.text "dest") (.array found)
      (some (.ok .done), { noted with bindings })
  | .error error => (some (.error (.files error)), state)

theorem outcome_ofExcept {α : Type} (result : Except Fault α) (state : State) :
    (Run.ofExcept result).outcome state = (some result, state) := by
  cases result with
  | error fault => rfl
  | ok value => rfl

theorem outcome_listEntries (command : Command) (directories : Bool) {given : Given}
    {state : State} {pattern : Option Pattern}
    (opened : state.files.isDirectory (given.settings.text "dir") = true)
    (requested : Requests characters (given.settings.text "regexp") pattern) :
    (listEntries characters command directories given).outcome state =
      concluded command given state (state.files.list (given.settings.isOn "recursive")
        directories pattern (given.settings.text "dir")) := by
  simp only [listEntries, Run.outcome_bind, Run.outcome_get, Run.proceed, opened, Bool.not_true,
    Bool.false_eq_true, ↓reduceIte, outcome_optionalPattern requested,
    outcome_ofExcept]
  cases state.files.list (given.settings.isOn "recursive") directories pattern
    (given.settings.text "dir") with
  | error error => rfl
  | ok found => rfl

/-- Two lists that tell everything below a directory: the one what counts as a directory, the
other all the rest. -/
structure TellsBelow (files : FileSystem) (directory : String) (entries : Entries)
    (below : Bool → List String) : Prop where
  sorted (directories : Bool) : (below directories).Pairwise (· < ·)
  disjoint : (below false).Disjoint (below true)
  absolute {directories : Bool} {path : String} (member : path ∈ below directories) :
    Files.Path.isAbsolute path = true
  mem_iff (directories : Bool) (path : String) :
    path ∈ below directories ↔ ∃ way node, FileSystem.Reaches directory entries way node ∧
      files.countsAsDirectory directory way node = directories ∧
        path = files.pathOf directory way
  once {way other : List String} {node otherNode : Node}
    (reaches : FileSystem.Reaches directory entries way node)
    (otherReaches : FileSystem.Reaches directory entries other otherNode)
    (same : files.pathOf directory way = files.pathOf directory other) : way = other

theorem tellsBelow_arranged (files : FileSystem) (directory : String) {entries : Entries}
    (sound : entries.IsSound) :
    TellsBelow files directory entries fun directories =>
      files.arranged directory directories none
        (entries.ways.filter (Files.isOpen directory)) where
  sorted directories := by
    refine files.pairwise_arranged directory directories none ?_ fun ⟨way, node⟩ member =>
      Entries.isEntryName_of_mem_ways sound (List.mem_of_mem_filter member)
    exact (Entries.nodup_ways sound).sublist (List.filter_sublist.map _)
  disjoint path member other := by
    rcases (files.mem_arranged_iff directory).mp member with ⟨way, node, inside, counts, -, rfl⟩
    rcases (files.mem_arranged_iff directory).mp other with
      ⟨otherWay, otherNode, otherInside, otherCounts, -, same⟩
    have reaches := (FileSystem.mem_filter_ways_iff sound).mp inside
    have otherReaches := (FileSystem.mem_filter_ways_iff sound).mp otherInside
    cases reaches.eq_of_pathOf_eq sound otherReaches same
    cases Option.some.inj (reaches.there.symm.trans otherReaches.there)
    exact Bool.false_ne_true (counts.symm.trans otherCounts)
  absolute member := by
    rcases (files.mem_arranged_iff directory).mp member with ⟨way, node, -, -, -, rfl⟩
    exact Files.Path.isAbsolute_absolute files.isAbsolute_workingPath _
  mem_iff directories path := by
    simp [files.mem_arranged_iff directory, FileSystem.mem_filter_ways_iff sound]
  once reaches otherReaches same := reaches.eq_of_pathOf_eq sound otherReaches same

/-- Two lists tell everything below a directory, and a listing of everything below it gives one of
them, or with a pattern what is in it under a name that matches. A listing of the directory alone
gives what is in the directory itself, unless a link misleads: then it fails. -/
theorem listings_tell_below {files : FileSystem} {directory : String} {place : List String}
    {entries : Entries} (looked : files.look directory = .ok (place, .directory entries))
    (sound : entries.IsSound) :
    ∃ below : Bool → List String,
      TellsBelow files directory entries below ∧
      (∀ directories, files.list true directories none directory = .ok (below directories)) ∧
      (∀ directories pattern, files.list true directories (some pattern) directory =
        .ok ((below directories).filter fun path =>
          pattern.fullMatch (FileSystem.ownName path).toList)) ∧
      (∀ directories pattern,
        (∀ entry ∈ entries.toList, ∀ error,
          ¬ files.Misleads (Files.Path.join directory entry.1) entry.2 error) →
        ∃ all, files.list true directories pattern directory = .ok all ∧
          files.list false directories pattern directory =
            .ok (all.filter (files.isBeside directory))) ∧
      (∀ directories pattern error,
        files.list false directories pattern directory = .error error ↔
          ∃ before entry after, entries.toList = before ++ entry :: after ∧
            (∀ earlier ∈ before, ∀ other,
              ¬ files.Misleads (Files.Path.join directory earlier.1) earlier.2 other) ∧
              files.Misleads (Files.Path.join directory entry.1) entry.2 error) ∧
      ∀ characters command directories pattern (given : Given) (state : State),
        state.files = files → given.settings.text "dir" = directory →
        Requests characters (given.settings.text "regexp") pattern →
        (listEntries characters command directories given).outcome state =
          concluded command given state (files.list (given.settings.isOn "recursive")
            directories pattern directory) := by
  have short := (FileSystem.look_eq_ok_iff.mp looked).1.short
  refine ⟨_, tellsBelow_arranged files directory sound, ?recursive, ?matching, ?flat, ?failing,
    ?command⟩
  case recursive =>
    exact fun directories => FileSystem.list_recursive directories none looked sound
  case matching =>
    intro directories pattern
    rw [FileSystem.list_recursive directories _ looked sound,
      FileSystem.arranged_matching sound pattern]
  case flat =>
    intro directories pattern clear
    refine ⟨_, FileSystem.list_recursive directories pattern looked sound, ?_⟩
    rw [FileSystem.list_flat directories pattern looked clear,
      FileSystem.arranged_singleStep sound short]
  case failing =>
    exact fun directories pattern error =>
      FileSystem.list_flat_eq_error_iff directories pattern looked
  case command =>
    rintro characters command directories pattern given state rfl rfl requested
    refine outcome_listEntries command directories ?_ requested
    simp [FileSystem.isDirectory, FileSystem.lookNode?, looked, Node.isDirectory]

/-! ### A link behind a file -/

def misledEntries : Entries := .ofList [("f", .file .empty), ("l", .link "f/x")]

def misledFiles : FileSystem := ⟨.directory (.ofList [("d", .directory misledEntries)]), []⟩

/-- A link to what would be below a file is told with all that is not a directory, but brings the
listing of its directory to an error. -/
theorem listings_tell_below_link :
    ∃ below, TellsBelow misledFiles "d" misledEntries below ∧
      misledFiles.list true false none "d" = .ok (below false) ∧ "/d/l" ∈ below false ∧
        misledFiles.list false false none "d" = .error (.at .notADirectory "d/l") := by
  have sound : misledEntries.IsSound :=
    .cons ⟨⟨by decide, by decide⟩, by decide⟩ rfl (.file _)
      (.cons ⟨⟨by decide, by decide⟩, by decide⟩ rfl (.link _) .nil)
  have looked : misledFiles.look "d" = .ok (["d"], .directory misledEntries) := rfl
  rcases listings_tell_below looked sound with ⟨below, tells, recursive, -, -, failing, -⟩
  have misleads : misledFiles.Misleads "d/l" (.link "f/x") (.at .notADirectory "d/l") :=
    .intro rfl (by decide)
  refine ⟨below, tells, recursive false, ?_, ?_⟩
  · exact (tells.mem_iff false "/d/l").mpr
      ⟨["l"], .link "f/x", ⟨by decide, rfl, by decide⟩, rfl, by decide +kernel⟩
  · refine (failing false none _).mpr
      ⟨[("f", .file .empty)], ("l", .link "f/x"), [], rfl, ?_, misleads⟩
    intro earlier member other
    cases List.mem_singleton.mp member
    rintro ⟨⟩

end Perform

end Runbook
