/-!
Lists of entries with a name, in the order in which the names were first set.
-/

namespace Runbook.Association

/-- Set the value of a name. A name that is there already keeps its place. -/
def set {α : Type} : List (String × α) → String → α → List (String × α)
  | [], name, value => [(name, value)]
  | (other, old) :: rest, name, value =>
      if other = name then (name, value) :: rest else (other, old) :: set rest name value

def setAll {α : Type} (entries additions : List (String × α)) : List (String × α) :=
  additions.foldl (fun entries (name, value) => set entries name value) entries

/-- The last value given for each name. -/
def ofList {α : Type} (entries : List (String × α)) : List (String × α) := setAll [] entries

/-- Entries in the order of the code points of their names. -/
def sorted {α : Type} (entries : List (String × α)) : List (String × α) :=
  entries.mergeSort fun a b => a.1 ≤ b.1

theorem names_set {α : Type} (entries : List (String × α)) (name : String) (value : α) :
    (set entries name value).map (·.1) =
      if name ∈ entries.map (·.1) then entries.map (·.1) else entries.map (·.1) ++ [name] := by
  induction entries with
  | nil => rfl
  | cons entry rest induction =>
      rcases entry with ⟨other, old⟩
      rw [set]
      split
      · simp_all
      · rename_i different
        have different : ¬name = other := fun same => different same.symm
        simp only [List.map_cons, List.mem_cons, induction, different, false_or]
        split <;> rfl

theorem nodup_set {α : Type} {entries : List (String × α)}
    (distinct : (entries.map (·.1)).Nodup) (name : String) (value : α) :
    ((set entries name value).map (·.1)).Nodup := by
  rw [names_set]
  split
  · exact distinct
  · rename_i new
    refine List.nodup_append.mpr ⟨distinct, by simp, ?_⟩
    intro other member last inLast same
    rw [List.mem_singleton.mp inLast] at same
    exact new (same ▸ member)

theorem lookup_cons_of_ne {α : Type} {first other : String} (different : other ≠ first)
    (value : α) (rest : List (String × α)) :
    ((first, value) :: rest).lookup other = rest.lookup other := by
  rw [List.lookup_cons, beq_false_of_ne different]

theorem lookup_set {α : Type} (entries : List (String × α)) (name other : String) (value : α) :
    (set entries name value).lookup other =
      if other = name then some value else entries.lookup other := by
  by_cases same : other = name
  · subst same
    rw [if_pos rfl]
    induction entries with
    | nil => exact List.lookup_cons_self
    | cons entry rest induction =>
        rcases entry with ⟨first, old⟩
        rw [set]
        split
        · exact List.lookup_cons_self
        · rename_i different
          rw [lookup_cons_of_ne fun same => different same.symm, induction]
  · rw [if_neg same]
    induction entries with
    | nil => exact lookup_cons_of_ne same value []
    | cons entry rest induction =>
        rcases entry with ⟨first, old⟩
        rw [set]
        split
        · rename_i found
          rw [lookup_cons_of_ne same, lookup_cons_of_ne (found ▸ same)]
        · rw [List.lookup_cons, List.lookup_cons, induction]

theorem lookup_eq_some_iff_mem {α : Type} {entries : List (String × α)}
    (distinct : (entries.map (·.1)).Nodup) {name : String} {value : α} :
    entries.lookup name = some value ↔ (name, value) ∈ entries := by
  rw [List.lookup_eq_some_iff]
  constructor
  · rintro ⟨before, after, shape, -⟩
    rw [shape]
    exact List.mem_append_cons_self
  · intro member
    rcases List.append_of_mem member with ⟨before, after, shape⟩
    refine ⟨before, after, shape, fun other earlier => ?_⟩
    rw [shape, List.map_append, List.map_cons, List.nodup_append] at distinct
    have different := distinct.2.2 other.1 (List.mem_map_of_mem earlier) name List.mem_cons_self
    simpa using different.symm

/-! ## Many entries -/

theorem mem_of_mem_set {α : Type} {entries : List (String × α)} {name : String} {value : α}
    {entry : String × α} (member : entry ∈ set entries name value) :
    entry = (name, value) ∨ entry ∈ entries := by
  induction entries with
  | nil => exact .inl (List.mem_singleton.mp member)
  | cons first rest induction =>
      rcases first with ⟨other, old⟩
      rw [set] at member
      split at member
      · rcases List.mem_cons.mp member with same | member
        · exact .inl same
        · exact .inr (List.mem_cons_of_mem _ member)
      · rcases List.mem_cons.mp member with same | member
        · exact .inr (same ▸ List.mem_cons_self)
        · exact (induction member).imp_right (List.mem_cons_of_mem _)

theorem nodup_setAll {α : Type} {entries : List (String × α)}
    (distinct : (entries.map (·.1)).Nodup) (additions : List (String × α)) :
    ((setAll entries additions).map (·.1)).Nodup := by
  induction additions generalizing entries with
  | nil => exact distinct
  | cons addition additions induction => exact induction (nodup_set distinct _ _)

theorem mem_of_mem_setAll {α : Type} {entries additions : List (String × α)} {entry : String × α}
    (member : entry ∈ setAll entries additions) : entry ∈ entries ∨ entry ∈ additions := by
  induction additions generalizing entries with
  | nil => exact .inl member
  | cons addition additions induction =>
      rcases induction member with set | later
      · rcases mem_of_mem_set set with rfl | earlier
        · exact .inr List.mem_cons_self
        · exact .inl earlier
      · exact .inr (List.mem_cons_of_mem _ later)

end Runbook.Association
