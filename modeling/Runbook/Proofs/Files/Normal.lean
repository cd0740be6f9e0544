import Runbook.Proofs.Files.Paths

/-! # Paths without detours

A path without detours keeps the steps of the path that it comes from, but for those that are
taken back. Steps that go down from a directory come behind those of the directory, and the
absolute path that they make up tells them all.
-/

namespace Runbook.Files.Path

/-- A name that an entry of a directory can have: a step that goes down. -/
structure IsEntryName (name : String) : Prop extends IsStep name where
  down : name ≠ ".."

/-! ## Taking steps back -/

theorem cancelParents_filter (absolute : Bool) (kept taken : List String) :
    cancelParents absolute kept (taken.filter fun name => !isTrivial name) =
      cancelParents absolute kept taken := by
  fun_induction cancelParents absolute kept taken <;> simp_all [cancelParents]

theorem cancelParents_of_down (absolute : Bool) (kept : List String) {way : List String}
    (proper : ∀ name ∈ way, IsEntryName name) :
    cancelParents absolute kept way = kept.reverse ++ way := by
  induction way generalizing kept with
  | nil => rw [cancelParents, List.append_nil]
  | cons name way induction =>
      rcases List.forall_mem_cons.mp proper with ⟨first, rest⟩
      have step : cancelParents absolute kept (name :: way) =
          cancelParents absolute (name :: kept) way := by
        simp [cancelParents, first.leads, first.down]
      rw [step, induction _ rest, List.reverse_cons, List.append_assoc, List.singleton_append]

/-- Steps that go down are never taken back. -/
theorem cancelParents_append (absolute : Bool) (kept front : List String) {way : List String}
    (proper : ∀ name ∈ way, IsEntryName name) :
    cancelParents absolute kept (front ++ way) = cancelParents absolute kept front ++ way := by
  fun_induction cancelParents absolute kept front <;>
    simp_all [cancelParents, cancelParents_of_down]

theorem mem_of_mem_cancelParents {absolute : Bool} {kept taken : List String} {name : String}
    (member : name ∈ cancelParents absolute kept taken) :
    name ∈ kept ∨ name ∈ taken ∨ name = ".." := by
  fun_induction cancelParents absolute kept taken <;> grind

/-- A path is normalized by taking back some of its steps. -/
theorem normalize_eq (path : String) :
    normalize path = written (root path) (cancelParents (isAbsolute path) [] (steps path)) := by
  rw [steps, cancelParents_filter]
  rfl

theorem isStep_of_mem_cancelParents {path name : String} {absolute : Bool}
    (member : name ∈ cancelParents absolute [] (steps path)) : IsStep name := by
  rcases mem_of_mem_cancelParents member with none | taken | rfl
  · cases none
  · exact isStep_of_mem_steps taken
  · exact ⟨by decide, by decide⟩

theorem steps_normalize (path : String) :
    steps (normalize path) = cancelParents (isAbsolute path) [] (steps path) := by
  rw [normalize_eq]
  exact steps_written (root_mem_roots path) fun _ => isStep_of_mem_cancelParents

theorem root_normalize (path : String) : root (normalize path) = root path := by
  rw [normalize_eq]
  exact root_written (root_mem_roots path) fun _ => isStep_of_mem_cancelParents

/-! ## Ways down -/

/-- The path of a way down from a directory. -/
def trail (directory : String) (way : List String) : String := way.foldl join directory

section Trail

variable {way : List String} (proper : ∀ name ∈ way, IsEntryName name)
include proper

theorem steps_trail (directory : String) : steps (trail directory way) = steps directory ++ way := by
  induction way generalizing directory with
  | nil => exact (List.append_nil _).symm
  | cons name way induction =>
      rcases List.forall_mem_cons.mp proper with ⟨first, rest⟩
      have relative := isAbsolute_of_isStep first.toIsStep
      rw [trail, List.foldl_cons, ← trail, induction rest, steps_join _ relative,
        steps_of_isStep first.toIsStep, List.append_assoc, List.singleton_append]

theorem root_trail (directory : String) : root (trail directory way) = root directory := by
  induction way generalizing directory with
  | nil => rfl
  | cons name way induction =>
      rcases List.forall_mem_cons.mp proper with ⟨first, rest⟩
      rw [trail, List.foldl_cons, ← trail, induction rest,
        root_join _ (isAbsolute_of_isStep first.toIsStep)]

/-- The path grows with the way. -/
theorem utf8ByteSize_le_trail (directory : String) :
    directory.utf8ByteSize ≤ (trail directory way).utf8ByteSize := by
  induction way generalizing directory with
  | nil => exact Nat.le_refl _
  | cons name way induction =>
      rcases List.forall_mem_cons.mp proper with ⟨first, rest⟩
      refine Nat.le_trans ?_ (induction rest (join directory name))
      rcases join_cases directory (isAbsolute_of_isStep first.toIsStep) with
        ⟨rfl, same⟩ | ⟨front, -, same⟩ | ⟨front, c, -, -, same⟩
      · exact Nat.zero_le _
      · rw [same, String.utf8ByteSize_append]
        exact Nat.le_add_right _ _
      · rw [same, String.utf8ByteSize_append, String.utf8ByteSize_append, Nat.add_assoc]
        exact Nat.le_add_right _ _

end Trail

/-! ## Absolute paths -/

/-- A path seen from a working directory, with all its detours. -/
def anchored (working path : String) : String :=
  if isAbsolute path then path else join working path

theorem absolute_eq (working path : String) :
    absolute working path = normalize (anchored working path) := rfl

section Absolute

variable {working : String}

theorem steps_anchored_trail {way : List String} (proper : ∀ name ∈ way, IsEntryName name)
    (working directory : String) :
    steps (anchored working (trail directory way)) = steps (anchored working directory) ++ way ∧
      root (anchored working (trail directory way)) = root (anchored working directory) := by
  have same : isAbsolute (trail directory way) = isAbsolute directory := by
    rw [isAbsolute_eq, root_trail proper, ← isAbsolute_eq]
  unfold anchored
  rw [same]
  by_cases rooted : isAbsolute directory = true
  · rw [if_pos rooted, if_pos rooted]
    exact ⟨steps_trail proper directory, root_trail proper directory⟩
  · have relative := (Bool.not_eq_true _).mp rooted
    rw [if_neg rooted, if_neg rooted, steps_join _ relative, steps_join _ (same.trans relative),
      root_join _ relative, root_join _ (same.trans relative), steps_trail proper,
      List.append_assoc]
    exact ⟨rfl, rfl⟩

variable (rooted : isAbsolute working = true)
include rooted

theorem isAbsolute_anchored (path : String) : isAbsolute (anchored working path) = true := by
  unfold anchored
  by_cases absolute : isAbsolute path = true
  · rwa [if_pos absolute]
  · rw [if_neg absolute, isAbsolute_eq, root_join _ ((Bool.not_eq_true _).mp absolute),
      ← isAbsolute_eq, rooted]

theorem isAbsolute_absolute (path : String) : isAbsolute (absolute working path) = true := by
  rw [absolute_eq, isAbsolute_eq, root_normalize, ← isAbsolute_eq, isAbsolute_anchored rooted]

section Trail

variable {way : List String} (proper : ∀ name ∈ way, IsEntryName name) (directory : String)
include proper

/-- On the absolute path of a way down, the way comes behind the steps of the directory. -/
theorem steps_absolute_trail :
    steps (absolute working (trail directory way)) =
      steps (absolute working directory) ++ way := by
  rcases steps_anchored_trail proper working directory with ⟨taken, -⟩
  rw [absolute_eq, absolute_eq, steps_normalize, steps_normalize, taken,
    cancelParents_append _ _ _ proper, isAbsolute_anchored rooted, isAbsolute_anchored rooted]

end Trail

end Absolute

end Runbook.Files.Path
