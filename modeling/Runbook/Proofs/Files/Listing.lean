import Mathlib.Data.List.Nodup
import Mathlib.Data.List.Sort
import Mathlib.Data.String.Basic
import Runbook.Files.Listing
import Runbook.Proofs.Files.Descending
import Runbook.Proofs.Files.Normal
import Runbook.Proofs.Results

/-! # Listings of directories

Everything below a directory is reached by one way down, on which no link is followed. A listing
of all that is below the directory comes across the end of each of these ways once, and a listing
of the directory alone across the ends of those that take a single step.
-/

namespace Runbook.Files

open Runbook.Files.Path (trail)

/-! ## Sound trees -/

mutual

/-- Every name in a tree is one that an entry can have, and no directory has two entries of one
name. -/
inductive Node.IsSound : Node → Prop
  | file (content : ByteArray) : Node.IsSound (.file content)
  | link (target : String) : Node.IsSound (.link target)
  | closed : Node.IsSound .closed
  | directory {entries : Entries} (sound : entries.IsSound) : Node.IsSound (.directory entries)

inductive Entries.IsSound : Entries → Prop
  | nil : Entries.IsSound .nil
  | cons {name : String} {node : Node} {rest : Entries} (proper : Path.IsEntryName name)
      (single : rest.get? name = none) (inside : node.IsSound) (beside : rest.IsSound) :
      Entries.IsSound (.cons name node rest)

end

/-! ## Ways down -/

mutual

/-- The ways down from a node, each with the node at its end. -/
def Node.ways : Node → List (List String × Node)
  | .directory entries => entries.ways
  | .file _ | .link _ | .closed => []

def Entries.ways : Entries → List (List String × Node)
  | .nil => []
  | .cons name node rest =>
      ([name], node) :: node.ways.map (Prod.map (name :: ·) id) ++ rest.ways

end

theorem Entries.mem_ways_cons {name : String} {node : Node} {rest : Entries}
    {reached : List String × Node} :
    reached ∈ (Entries.cons name node rest).ways ↔ reached = ([name], node) ∨
      (∃ behind ∈ node.ways, reached = (name :: behind.1, behind.2)) ∨ reached ∈ rest.ways := by
  simp only [ways, List.cons_append, List.mem_cons, List.mem_append, List.mem_map, Prod.map, id,
    eq_comm]

mutual

/-- Every way down takes a step. -/
theorem Node.nonempty_of_mem_ways {reached : List String × Node} : ∀ {node : Node},
    reached ∈ node.ways → reached.1 ≠ []
  | .directory _, member => Entries.nonempty_of_mem_ways member
  | .file _, member => by cases member
  | .link _, member => by cases member
  | .closed, member => by cases member

theorem Entries.nonempty_of_mem_ways {reached : List String × Node} : ∀ {entries : Entries},
    reached ∈ entries.ways → reached.1 ≠ []
  | .nil, member => by cases member
  | .cons name node rest, member => by
      rcases Entries.mem_ways_cons.mp member with rfl | ⟨behind, -, rfl⟩ | inRest
      · exact List.cons_ne_nil _ _
      · exact List.cons_ne_nil _ _
      · exact Entries.nonempty_of_mem_ways inRest

end

mutual

/-- The ways down from a node are those that lead to a node without any link on them. -/
theorem Node.mem_ways_iff {way : List String} {found : Node} : ∀ {node : Node}, node.IsSound →
    ((way, found) ∈ node.ways ↔ way ≠ [] ∧ node.get? way = some found)
  | _, .directory sound => Entries.mem_ways_iff sound
  | _, .file content => by cases way <;> simp [Node.ways, Node.get?]
  | _, .link target => by cases way <;> simp [Node.ways, Node.get?]
  | _, .closed => by cases way <;> simp [Node.ways, Node.get?]

theorem Entries.mem_ways_iff {way : List String} {found : Node} : ∀ {entries : Entries},
    entries.IsSound →
    ((way, found) ∈ entries.ways ↔ way ≠ [] ∧ (Node.directory entries).get? way = some found)
  | _, .nil => by cases way <;> simp [Entries.ways, Node.get?, Entries.get?]
  | _, @Entries.IsSound.cons name node rest proper single inside beside => by
      cases way with
      | nil =>
          exact ⟨fun member => absurd rfl (Entries.nonempty_of_mem_ways member),
            fun reached => absurd rfl reached.1⟩
      | cons first others =>
          have below := @Node.mem_ways_iff others found node inside
          have behind := @Entries.mem_ways_iff (first :: others) found rest beside
          by_cases same : name = first
          · subst same
            have absent : (name :: others, found) ∉ rest.ways := by
              rw [behind, Node.get?, single]
              simp
            have entered : (Node.directory (.cons name node rest)).get? (name :: others) =
                node.get? others := by simp [Node.get?, Entries.get?]
            rw [Entries.mem_ways_cons, entered]
            cases others with
            | nil => simp [Node.get?, absent, below, eq_comm]
            | cons second others => simp [absent, below]
          · have passed : (Node.directory (.cons name node rest)).get? (first :: others) =
                (Node.directory rest).get? (first :: others) := by
              simp [Node.get?, Entries.get?, same]
            rw [Entries.mem_ways_cons, passed, ← behind]
            simp [Ne.symm same]

end

section Ways

variable {entries : Entries}

theorem Entries.exists_step_of_mem_ways (sound : entries.IsSound) {way : List String}
    {found : Node} (member : (way, found) ∈ entries.ways) :
    ∃ name rest, way = name :: rest ∧ entries.get? name ≠ none := by
  rcases (mem_ways_iff sound).mp member with ⟨nonempty, reached⟩
  cases way with
  | nil => exact absurd rfl nonempty
  | cons name rest =>
      refine ⟨name, rest, rfl, fun absent => ?_⟩
      rw [Node.get?, absent] at reached
      cases reached

end Ways

mutual

/-- No two ways down take the same steps. -/
theorem Node.nodup_ways : ∀ {node : Node}, node.IsSound → (node.ways.map Prod.fst).Nodup
  | _, .directory sound => Entries.nodup_ways sound
  | _, .file content => List.nodup_nil
  | _, .link target => List.nodup_nil
  | _, .closed => List.nodup_nil

theorem Entries.nodup_ways : ∀ {entries : Entries}, entries.IsSound →
    (entries.ways.map Prod.fst).Nodup
  | _, .nil => List.nodup_nil
  | _, @Entries.IsSound.cons name node rest proper single inside beside => by
      have below := Node.nodup_ways inside
      have behind := Entries.nodup_ways beside
      have shape : (Entries.ways (.cons name node rest)).map Prod.fst =
          ([] :: node.ways.map Prod.fst).map (name :: ·) ++ rest.ways.map Prod.fst := by
        simp [Entries.ways, Function.comp_def]
      have unstarted : [] ∉ node.ways.map Prod.fst := by
        intro member
        rcases List.mem_map.mp member with ⟨reached, inWays, same⟩
        exact Node.nonempty_of_mem_ways inWays same
      rw [shape]
      refine List.nodup_append'.mpr ⟨?_, behind, ?_⟩
      · exact (List.nodup_cons.mpr ⟨unstarted, below⟩).map (List.cons_injective)
      · intro way here there
        rcases List.mem_map.mp here with ⟨others, -, rfl⟩
        rcases List.mem_map.mp there with ⟨⟨way, found⟩, inWays, same⟩
        rcases Entries.exists_step_of_mem_ways beside inWays with ⟨first, taken, rfl, present⟩
        cases same
        exact present single

end

mutual

/-- Every step of a way down goes down. -/
theorem Node.isEntryName_of_mem_ways {way : List String} {found : Node} : ∀ {node : Node},
    node.IsSound → (way, found) ∈ node.ways → ∀ name ∈ way, Path.IsEntryName name
  | _, .directory sound, member => Entries.isEntryName_of_mem_ways sound member
  | _, .file content, member => by cases member
  | _, .link target, member => by cases member
  | _, .closed, member => by cases member

theorem Entries.isEntryName_of_mem_ways {way : List String} {found : Node} :
    ∀ {entries : Entries}, entries.IsSound → (way, found) ∈ entries.ways →
      ∀ name ∈ way, Path.IsEntryName name
  | _, .nil, member => by cases member
  | _, .cons proper single inside beside, member => by
      rcases Entries.mem_ways_cons.mp member with first | ⟨⟨others, other⟩, inWays, same⟩ | inWays
      · cases first
        exact List.forall_mem_singleton.mpr proper
      · cases same
        exact List.forall_mem_cons.mpr ⟨proper, Node.isEntryName_of_mem_ways inside inWays⟩
      · exact Entries.isEntryName_of_mem_ways beside inWays

end

/-! ## Walks -/

/-- What a listing tells about the end of a way down from a directory. -/
def FileSystem.listed (files : FileSystem) (directory : String) (reached : List String × Node) :
    Listed :=
  let path := trail directory reached.1
  ⟨reached.1.getLast?.getD "", path, (files.leadsDown path reached.2).toOption.getD false⟩

/-- Whether the directory that holds the end of a way has a path that is not too long. -/
def isOpen (directory : String) (reached : List String × Node) : Bool :=
  decide ((trail directory reached.1.dropLast).utf8ByteSize < pathLimit)

section Step

variable (directory name : String) {reached : List String × Node} (nonempty : reached.1 ≠ [])
include nonempty

theorem isOpen_step :
    isOpen directory (reached.map (name :: ·) id) = isOpen (Path.join directory name) reached := by
  rw [isOpen, isOpen, Prod.map_fst, List.dropLast_cons_of_ne_nil nonempty]
  rfl

theorem FileSystem.listed_step (files : FileSystem) :
    files.listed directory (reached.map (name :: ·) id) =
      files.listed (Path.join directory name) reached := by
  have last : (name :: reached.1).getLast? = reached.1.getLast? := by
    rcases List.exists_cons_of_ne_nil nonempty with ⟨first, others, shape⟩
    rw [shape, List.getLast?_cons_cons]
  simp only [listed, Prod.map_fst, last]
  rfl

end Step

mutual

/-- A walk comes across the ends of all ways down that are open. -/
theorem Node.walk_eq (files : FileSystem) : ∀ {node : Node}, node.IsSound → ∀ path,
    node.walk files path = (node.ways.filter (isOpen path)).map (files.listed path)
  | _, .file content, path => rfl
  | _, .link target, path => rfl
  | _, .closed, path => rfl
  | _, @Node.IsSound.directory entries sound, path => by
      rw [Node.walk, Node.ways]
      by_cases short : path.utf8ByteSize < pathLimit
      · rw [if_neg (Nat.not_le.mpr short)]
        exact Entries.walk_eq files sound short
      · -- A directory that cannot be opened has nothing open below it, as paths only grow.
        rw [if_pos (Nat.not_lt.mp short), eq_comm, List.map_eq_nil_iff, List.filter_eq_nil_iff]
        rintro ⟨way, found⟩ member
        have proper : ∀ name ∈ way.dropLast, Path.IsEntryName name := fun name inWay =>
          Entries.isEntryName_of_mem_ways sound member name (List.dropLast_subset way inWay)
        have grown := Path.utf8ByteSize_le_trail proper path
        rw [isOpen, decide_eq_true_eq]
        exact Nat.not_lt.mpr (Nat.le_trans (Nat.not_lt.mp short) grown)

theorem Entries.walk_eq (files : FileSystem) : ∀ {entries : Entries}, entries.IsSound →
    ∀ {path : String}, path.utf8ByteSize < pathLimit →
    entries.walk files path = (entries.ways.filter (isOpen path)).map (files.listed path)
  | _, .nil, _, _ => rfl
  | _, @Entries.IsSound.cons name node rest proper single inside beside, path, short => by
      have below := Node.walk_eq files inside (Path.join path name)
      have behind := Entries.walk_eq files beside short
      have first : isOpen path ([name], node) = true := decide_eq_true short
      have filtered : (node.ways.map (Prod.map (name :: ·) id)).filter (isOpen path) =
          (node.ways.filter (isOpen (Path.join path name))).map (Prod.map (name :: ·) id) := by
        rw [List.filter_map]
        exact congrArg _ (List.filter_congr fun reached member =>
          isOpen_step path name (Node.nonempty_of_mem_ways member))
      have told : (node.ways.filter (isOpen (Path.join path name))).map
          (files.listed path ∘ Prod.map (name :: ·) id) =
            (node.ways.filter (isOpen (Path.join path name))).map
              (files.listed (Path.join path name)) :=
        List.map_congr_left fun reached member =>
          files.listed_step path name
            (Node.nonempty_of_mem_ways (List.mem_of_mem_filter member))
      rw [Entries.walk, Entries.ways, below, behind, List.cons_append, List.cons_append,
        List.filter_cons_of_pos first, List.filter_append, filtered, List.map_cons, List.map_append,
        List.map_map, told]
      rfl

end

/-! ## Sorted paths -/

namespace FileSystem

variable (files : FileSystem) (directory : String)

theorem isAbsolute_workingPath : Path.isAbsolute files.workingPath = true := by
  simp [workingPath, Path.isAbsolute]

/-- The absolute path of the end of a way down. -/
def pathOf (way : List String) : String :=
  Path.absolute files.workingPath (trail directory way)

/-- Whether the end of a way down counts as a directory. -/
def countsAsDirectory (way : List String) (node : Node) : Bool :=
  (files.leadsDown (trail directory way) node).toOption.getD false

/-- The sorted paths of those ends of ways down that count as directories, or of the others, and
whose names match a pattern. -/
def arranged (directories : Bool) (pattern : Option Pattern)
    (reached : List (List String × Node)) : List String :=
  (((reached.map (files.listed directory)).filter fun entry => entry.isDirectory == directories &&
      pattern.all fun pattern => pattern.fullMatch entry.name.toList).map
    fun entry => Path.absolute files.workingPath entry.path).mergeSort fun a b => a ≤ b

theorem mem_arranged_iff {directories : Bool} {pattern : Option Pattern}
    {reached : List (List String × Node)} {path : String} :
    path ∈ files.arranged directory directories pattern reached ↔
      ∃ way node, (way, node) ∈ reached ∧ files.countsAsDirectory directory way node = directories ∧
        (∀ known ∈ pattern, known.fullMatch (way.getLast?.getD "").toList = true) ∧
          path = files.pathOf directory way := by
  simp only [arranged, List.mem_mergeSort, List.mem_map, List.mem_filter]
  constructor
  · rintro ⟨_, ⟨⟨⟨way, node⟩, member, rfl⟩, chosen⟩, rfl⟩
    rw [Bool.and_eq_true, beq_iff_eq, Option.all_eq_true] at chosen
    exact ⟨way, node, member, chosen.1, chosen.2, rfl⟩
  · rintro ⟨way, node, member, counts, matching, rfl⟩
    refine ⟨_, ⟨⟨(way, node), member, rfl⟩, ?_⟩, rfl⟩
    rw [Bool.and_eq_true, beq_iff_eq, Option.all_eq_true]
    exact ⟨counts, matching⟩

section Proper

variable {files directory} {way other : List String}
  (proper : ∀ name ∈ way, Path.IsEntryName name)
include proper

theorem steps_pathOf :
    Path.steps (files.pathOf directory way) =
      Path.steps (Path.absolute files.workingPath directory) ++ way :=
  Path.steps_absolute_trail files.isAbsolute_workingPath proper directory

/-- Every way down has a path of its own. -/
theorem pathOf_inj (otherProper : ∀ name ∈ other, Path.IsEntryName name)
    (same : files.pathOf directory way = files.pathOf directory other) : way = other := by
  have taken := congrArg Path.steps same
  rw [steps_pathOf proper, steps_pathOf otherProper] at taken
  exact List.append_cancel_left taken

end Proper

theorem sorted_arranged (directories : Bool) (pattern : Option Pattern)
    (reached : List (List String × Node)) :
    (files.arranged directory directories pattern reached).Pairwise (· ≤ ·) :=
  List.pairwise_mergeSort' (fun first second : String => first ≤ second) _

/-- Leaving out ends of ways leaves out their paths. -/
theorem arranged_filter {directories : Bool} {pattern : Option Pattern}
    {reached : List (List String × Node)} {kept : List String × Node → Bool}
    {wanted : String → Bool}
    (same : ∀ entry ∈ reached, kept entry = wanted (files.pathOf directory entry.1)) :
    files.arranged directory directories pattern (reached.filter kept) =
      (files.arranged directory directories pattern reached).filter wanted := by
  refine List.Perm.eq_of_pairwise' (files.sorted_arranged directory directories pattern _)
    ((files.sorted_arranged directory directories pattern _).filter wanted) ?_
  rw [List.filter_congr same]
  refine (List.mergeSort_perm _ _).trans (.trans ?_ ((List.mergeSort_perm _ _).filter _).symm)
  rw [List.filter_map, List.filter_map, List.filter_map, List.filter_map]
  simp only [List.filter_filter, Bool.and_comm]
  rfl

theorem pairwise_arranged (directories : Bool) (pattern : Option Pattern)
    {reached : List (List String × Node)} (nodup : (reached.map Prod.fst).Nodup)
    (proper : ∀ entry ∈ reached, ∀ name ∈ entry.1, Path.IsEntryName name) :
    (files.arranged directory directories pattern reached).Pairwise (· < ·) := by
  have paths : (reached.map fun entry => files.pathOf directory entry.1).Nodup := by
    have mapped : reached.map (fun entry => files.pathOf directory entry.1) =
        (reached.map Prod.fst).map (files.pathOf directory) := by rw [List.map_map]; rfl
    rw [mapped]
    refine nodup.map_on fun way member other otherMember same => ?_
    rcases List.mem_map.mp member with ⟨entry, inside, rfl⟩
    rcases List.mem_map.mp otherMember with ⟨otherEntry, otherInside, rfl⟩
    exact pathOf_inj (proper entry inside) (proper otherEntry otherInside) same
  have distinct : (files.arranged directory directories pattern reached).Nodup := by
    rw [arranged, (List.mergeSort_perm _ _).nodup_iff]
    refine List.Nodup.sublist ?_ paths
    have told : reached.map (fun entry => files.pathOf directory entry.1) =
        (reached.map (files.listed directory)).map fun entry =>
          Path.absolute files.workingPath entry.path := by rw [List.map_map]; rfl
    rw [told]
    exact List.filter_sublist.map _
  have sorted := files.sorted_arranged directory directories pattern reached
  exact (sorted.and distinct).imp fun ⟨before, apart⟩ => lt_of_le_of_ne before apart

end FileSystem

/-! ## Listings -/

/-- An entry of the directory is at the end of a way of one step. -/
def singleStep (entry : String × Node) : List String × Node := ([entry.1], entry.2)

/-- The entries of a directory are at the ends of the ways that take a single step. -/
theorem Entries.filter_ways (entries : Entries) :
    entries.ways.filter (fun reached => reached.1.dropLast == []) =
      entries.toList.map singleStep := by
  fun_induction toList entries with
  | case1 => rfl
  | case2 name node rest induction =>
      have deeper : (node.ways.map (Prod.map (name :: ·) id)).filter
          (fun reached => reached.1.dropLast == []) = [] := by
        rw [List.filter_eq_nil_iff]
        intro reached member
        rcases List.mem_map.mp member with ⟨behind, inWays, rfl⟩
        rw [Prod.map_fst, List.dropLast_cons_of_ne_nil (Node.nonempty_of_mem_ways inWays)]
        simp
      rw [ways, List.cons_append, List.filter_cons_of_pos rfl, List.filter_append, deeper,
        induction]
      rfl

namespace FileSystem

section Looked

variable {files : FileSystem} {directory : String} {place : List String} {entries : Entries}
  {directories : Bool} {pattern : Option Pattern}

/-- A link that leads nowhere for another reason than that something is missing. -/
inductive Misleads (files : FileSystem) (path : String) : Node → Error → Prop
  | intro {target : String} {fault : Fault} (failed : files.locate true path = .error fault)
      (present : fault ≠ .missing) : Misleads files path (.link target) (.at fault path)

theorem leadsDown_eq_error_iff {path : String} {node : Node} {error : Error} :
    files.leadsDown path node = .error error ↔ files.Misleads path node error := by
  constructor
  · intro failed
    unfold leadsDown at failed
    split at failed
    · cases failed
    · cases failed
    · cases failed
    · split at failed
      · cases failed
      · cases failed
      · rename_i fault other located
        cases failed
        exact .intro located other
  · rintro ⟨failed, present⟩
    simp only [leadsDown, failed]

theorem list_eq : entries.list files directory = entries.toList.mapM fun entry =>
    (files.leadsDown (Path.join directory entry.1) entry.2).map fun isDirectory =>
      ⟨entry.1, Path.join directory entry.1, isDirectory⟩ := by
  refine Results.mapM_congr fun ⟨name, node⟩ member => ?_
  dsimp only
  cases files.leadsDown (Path.join directory name) node with
  | error error => rfl
  | ok isDirectory => rfl

theorem list_eq_ok
    (clear : ∀ entry ∈ entries.toList, ∀ error,
      ¬ files.Misleads (Path.join directory entry.1) entry.2 error) :
    entries.list files directory =
      .ok ((entries.toList.map singleStep).map (files.listed directory)) := by
  have told : entries.list files directory =
      entries.toList.mapM fun entry => pure (files.listed directory (singleStep entry)) := by
    rw [list_eq]
    refine Results.mapM_congr fun entry member => ?_
    change (files.leadsDown (trail directory [entry.1]) entry.2).map _ = _
    cases leads : files.leadsDown (trail directory [entry.1]) entry.2 with
    | error error => exact absurd (leadsDown_eq_error_iff.mp leads) (clear entry member error)
    | ok isDirectory =>
        simp only [listed, singleStep, leads]
        rfl
  rw [told, List.mapM_pure, List.map_map]
  rfl

/-- Listing a directory fails with its first entry that misleads. -/
theorem list_eq_error_iff {error : Error} :
    entries.list files directory = .error error ↔ ∃ before entry after,
      entries.toList = before ++ entry :: after ∧
        (∀ earlier ∈ before, ∀ other,
          ¬ files.Misleads (Path.join directory earlier.1) earlier.2 other) ∧
          files.Misleads (Path.join directory entry.1) entry.2 error := by
  simp only [list_eq, Results.mapM_eq_error_iff, Results.exists_ok_iff, Results.map_eq_error_iff,
    ne_eq, leadsDown_eq_error_iff]

/-- What a way down from a directory leads to, if what holds it can be opened. -/
structure Reaches (directory : String) (entries : Entries) (way : List String) (node : Node) :
    Prop where
  down : way ≠ []
  there : (Node.directory entries).get? way = some node
  reachable : (trail directory way.dropLast).utf8ByteSize < pathLimit

theorem mem_filter_ways_iff (sound : entries.IsSound) {way : List String} {node : Node} :
    (way, node) ∈ entries.ways.filter (isOpen directory) ↔ Reaches directory entries way node := by
  rw [List.mem_filter, Entries.mem_ways_iff sound, isOpen, decide_eq_true_eq]
  exact ⟨fun ⟨⟨down, there⟩, reachable⟩ => ⟨down, there, reachable⟩,
    fun ⟨down, there, reachable⟩ => ⟨⟨down, there⟩, reachable⟩⟩

theorem Reaches.eq_of_pathOf_eq (sound : entries.IsSound) {way other : List String}
    {node otherNode : Node} (reaches : Reaches directory entries way node)
    (otherReaches : Reaches directory entries other otherNode)
    (same : files.pathOf directory way = files.pathOf directory other) : way = other := by
  have proper {way : List String} {node : Node} (reaches : Reaches directory entries way node) :
      ∀ name ∈ way, Path.IsEntryName name :=
    Entries.isEntryName_of_mem_ways sound
      (List.mem_of_mem_filter ((mem_filter_ways_iff sound).mpr reaches))
  exact pathOf_inj (proper reaches) (proper otherReaches) same

variable (directories : Bool) (pattern : Option Pattern)
  (looked : files.look directory = .ok (place, .directory entries))
include looked

theorem list_recursive (sound : entries.IsSound) :
    files.list true directories pattern directory =
      .ok (files.arranged directory directories pattern
        (entries.ways.filter (isOpen directory))) := by
  have short := (look_eq_ok_iff.mp looked).1.short
  rw [list, FileSystem.entries, looked]
  dsimp only
  rw [if_pos rfl, Entries.walk_eq files sound short]
  rfl

theorem list_flat
    (clear : ∀ entry ∈ entries.toList, ∀ error,
      ¬ files.Misleads (Path.join directory entry.1) entry.2 error) :
    files.list false directories pattern directory =
      .ok (files.arranged directory directories pattern (entries.toList.map singleStep)) := by
  rw [list, FileSystem.entries, looked]
  dsimp only
  rw [if_neg Bool.false_ne_true, list_eq_ok clear]
  rfl

theorem list_flat_eq_error_iff {error : Error} :
    files.list false directories pattern directory = .error error ↔ ∃ before entry after,
      entries.toList = before ++ entry :: after ∧
        (∀ earlier ∈ before, ∀ other,
          ¬ files.Misleads (Path.join directory earlier.1) earlier.2 other) ∧
          files.Misleads (Path.join directory entry.1) entry.2 error := by
  rw [← list_eq_error_iff, list, FileSystem.entries, looked]
  dsimp only
  rw [if_neg Bool.false_ne_true, Results.bind_eq_error_iff]
  exact ⟨fun failed => failed.elim id fun ⟨_, _, returned⟩ => (by cases returned), .inl⟩

end Looked

section Chosen

variable {files : FileSystem} {directory : String} {directories : Bool} {way : List String}

/-- The name at the end of a path. -/
def ownName (path : String) : String := (Path.steps path).getLast?.getD ""

/-- Whether a path leads to an entry of the directory itself. -/
def isBeside (files : FileSystem) (directory path : String) : Bool :=
  (Path.steps path).dropLast == Path.steps (Path.absolute files.workingPath directory)

section Proper

variable (proper : ∀ name ∈ way, Path.IsEntryName name) (nonempty : way ≠ [])
include proper nonempty

theorem ownName_pathOf : ownName (files.pathOf directory way) = way.getLast?.getD "" := by
  rw [ownName, steps_pathOf proper, List.getLast?_append_of_ne_nil _ nonempty]

theorem isBeside_pathOf :
    files.isBeside directory (files.pathOf directory way) = (way.dropLast == []) := by
  rw [isBeside, steps_pathOf proper, List.dropLast_append_of_ne_nil nonempty, Bool.eq_iff_iff]
  simp

end Proper

theorem arranged_some {pattern : Pattern} {reached : List (List String × Node)} :
    files.arranged directory directories (some pattern) reached =
      files.arranged directory directories none (reached.filter fun entry =>
        pattern.fullMatch (entry.1.getLast?.getD "").toList) := by
  unfold arranged
  rw [List.filter_map, List.filter_map, List.filter_filter]
  simp [Function.comp_def, listed]

variable {entries : Entries} (sound : entries.IsSound)
include sound

/-- A pattern leaves the paths of those entries whose own names it matches. -/
theorem arranged_matching (pattern : Pattern) :
    files.arranged directory directories (some pattern) (entries.ways.filter (isOpen directory)) =
      (files.arranged directory directories none (entries.ways.filter (isOpen directory))).filter
        fun path => pattern.fullMatch (ownName path).toList := by
  rw [arranged_some]
  refine files.arranged_filter directory fun entry member => ?_
  have inside := List.mem_of_mem_filter member
  rw [ownName_pathOf (Entries.isEntryName_of_mem_ways sound inside)
    (Entries.nonempty_of_mem_ways inside)]

/-- What a listing of the directory alone comes across is what lies in the directory itself, out
of all that a listing of everything below it comes across. -/
theorem arranged_singleStep (short : directory.utf8ByteSize < pathLimit)
    (pattern : Option Pattern) :
    files.arranged directory directories pattern (entries.toList.map singleStep) =
      (files.arranged directory directories pattern
        (entries.ways.filter (isOpen directory))).filter (files.isBeside directory) := by
  have opened : (entries.ways.filter (isOpen directory)).filter (fun reached =>
      reached.1.dropLast == []) = entries.toList.map singleStep := by
    rw [← Entries.filter_ways, List.filter_filter]
    refine List.filter_congr fun reached member => ?_
    by_cases single : reached.1.dropLast = []
    · simp [isOpen, single, trail, short]
    · simp [single]
  rw [← opened]
  refine files.arranged_filter directory fun entry member => ?_
  have inside := List.mem_of_mem_filter member
  rw [isBeside_pathOf (Entries.isEntryName_of_mem_ways sound inside)
    (Entries.nonempty_of_mem_ways inside)]

end Chosen

end FileSystem

end Runbook.Files
