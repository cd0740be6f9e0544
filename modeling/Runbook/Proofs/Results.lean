import Mathlib.Data.List.Basic

/-! # Results

What computations that may fail come to, in a row and over a list.
-/

namespace Runbook.Results

variable {α β ε δ : Type}

theorem exists_ok_iff {result : Except ε α} :
    (∃ value, result = .ok value) ↔ ∀ fault, result ≠ .error fault := by
  cases result with
  | error fault => simp
  | ok value => simp

/-! ## Results that are known -/

theorem pure_eq_ok (value : α) : (pure value : Except ε α) = .ok value := rfl

theorem ok_bind (value : α) (next : α → Except ε β) :
    (.ok value : Except ε α) >>= next = next value := rfl

theorem error_bind (fault : ε) (next : α → Except ε β) :
    (.error fault : Except ε α) >>= next = .error fault := rfl

/-! ## What results come from -/

section Bind

variable {first : Except ε α} {next : α → Except ε β}

theorem bind_eq_ok_iff {result : β} :
    first >>= next = .ok result ↔ ∃ value, first = .ok value ∧ next value = .ok result := by
  cases first with
  | error fault => simp [bind, Except.bind]
  | ok value => simp [bind, Except.bind]

theorem bind_eq_error_iff {fault : ε} :
    first >>= next = .error fault ↔
      first = .error fault ∨ ∃ value, first = .ok value ∧ next value = .error fault := by
  cases first with
  | error other => simp [bind, Except.bind]
  | ok value => simp [bind, Except.bind]

end Bind

section MapError

variable {wrap : ε → δ} {result : Except ε α}

theorem mapError_eq_ok_iff {value : α} :
    result.mapError wrap = .ok value ↔ result = .ok value := by
  cases result with
  | error fault => simp [Except.mapError]
  | ok other => simp [Except.mapError]

theorem mapError_eq_error_iff {fault : δ} :
    result.mapError wrap = .error fault ↔ ∃ cause, result = .error cause ∧ wrap cause = fault := by
  cases result with
  | error cause => simp [Except.mapError]
  | ok value => simp [Except.mapError]

end MapError

section Map

variable {change : α → β} {result : Except ε α}

theorem map_eq_ok_iff {value : β} :
    result.map change = .ok value ↔ ∃ found, result = .ok found ∧ change found = value := by
  cases result with
  | error fault => simp [Except.map]
  | ok found => simp [Except.map]

theorem map_eq_error_iff {fault : ε} : result.map change = .error fault ↔ result = .error fault := by
  cases result with
  | error other => simp [Except.map]
  | ok found => simp [Except.map]

end Map

section MapM

variable {act other : α → Except ε β} {values : List α}

theorem mapM_congr (same : ∀ value ∈ values, act value = other value) :
    values.mapM act = values.mapM other := by
  induction values with
  | nil => rfl
  | cons first rest induction =>
      rw [List.mapM_cons, List.mapM_cons, same first (by simp),
        induction fun value member => same value (by simp [member])]

theorem exists_ok_of_mapM {results : List β} (returned : values.mapM act = .ok results) :
    ∀ value ∈ values, ∃ result, act value = .ok result := by
  induction values generalizing results with
  | nil => simp
  | cons first rest induction =>
      rw [List.mapM_cons] at returned
      rcases bind_eq_ok_iff.mp returned with ⟨result, ended, returned⟩
      rcases bind_eq_ok_iff.mp returned with ⟨_, followed, _⟩
      intro value member
      rcases List.mem_cons.mp member with rfl | member
      · exact ⟨result, ended⟩
      · exact induction followed value member

/-- A list fails with its first element that does. -/
theorem mapM_eq_error_iff {fault : ε} :
    values.mapM act = .error fault ↔ ∃ before value after, values = before ++ value :: after ∧
      (∀ earlier ∈ before, ∃ result, act earlier = .ok result) ∧ act value = .error fault := by
  induction values with
  | nil => simp [pure, Except.pure]
  | cons first rest induction =>
      rw [List.mapM_cons, bind_eq_error_iff]
      constructor
      · rintro (failed | ⟨result, returned, failed⟩)
        · exact ⟨[], first, rest, rfl, by simp, failed⟩
        · rcases bind_eq_error_iff.mp failed with further | ⟨_, _, ⟨⟩⟩
          rcases induction.mp further with ⟨before, value, after, rfl, earlier, failed⟩
          exact ⟨first :: before, value, after, rfl,
            List.forall_mem_cons.mpr ⟨⟨_, returned⟩, earlier⟩, failed⟩
      · rintro ⟨before, value, after, shape, earlier, failed⟩
        cases before with
        | nil =>
            cases shape
            exact .inl failed
        | cons head before =>
            cases shape
            rcases List.forall_mem_cons.mp earlier with ⟨⟨result, returned⟩, others⟩
            refine .inr ⟨result, returned, bind_eq_error_iff.mpr (.inl ?_)⟩
            exact induction.mpr ⟨before, value, after, rfl, others, failed⟩

theorem exists_error_of_mapM {fault : ε} (failed : values.mapM act = .error fault) :
    ∃ value ∈ values, act value = .error fault := by
  rcases mapM_eq_error_iff.mp failed with ⟨before, value, after, rfl, -, failed⟩
  exact ⟨value, by simp, failed⟩

end MapM

end Runbook.Results
