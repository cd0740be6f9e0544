import Runbook.Proofs.Text.Substituting

/-! # Marks in texts

A text is divided at the first place where a mark stands. A mark may be one character, or
two that stand next to each other. Two characters do not come to stand next to each other
by putting texts together with some other character in between.
-/

namespace Runbook.Text

theorem splitAtFirst_append_cons {c : Char} {before : List Char} (free : c ∉ before)
    (after : List Char) : splitAtFirst [c] (before ++ c :: after) = some (before, after) := by
  induction before with
  | nil => simp [splitAtFirst]
  | cons d before induction =>
      have different : c ≠ d := fun same => free (same ▸ List.mem_cons_self)
      have rest := induction (List.not_mem_of_not_mem_cons free)
      rw [List.cons_append, splitAtFirst, rest]
      simp [different]

/-- What stands before the first mark, or the whole text if there is none. -/
theorem takeWhile_ne_eq (c : Char) (text : List Char) :
    text.takeWhile (· != c) = ((splitAtFirst [c] text).map (·.1)).getD text := by
  induction text with
  | nil => rfl
  | cons d rest induction =>
      rw [splitAtFirst]
      by_cases same : d = c
      · subst same
        simp
      · have different : ¬c = d := fun equal => same equal.symm
        rw [List.takeWhile_cons_of_pos (by simpa using same), induction]
        cases splitAtFirst [c] rest <;> simp [different]

/-! ## Pairs -/

section Pairs

variable {a b : Char}

theorem pair_cons_iff {c : Char} {rest : List Char} :
    [a, b] <:+: c :: rest ↔ (c = a ∧ rest.head? = some b) ∨ [a, b] <:+: rest := by
  rw [List.infix_cons_iff]
  apply or_congr_left
  cases rest with
  | nil => simp
  | cons d rest => simp [eq_comm]

theorem not_pair_of_not_mem {text : List Char} (free : b ∉ text) : ¬[a, b] <:+: text := by
  intro pair
  exact free (pair.subset (by simp))

theorem pair_cons_of_ne {c : Char} (different : c ≠ a) {rest : List Char} :
    [a, b] <:+: c :: rest ↔ [a, b] <:+: rest := by
  simp [pair_cons_iff, different]

theorem pair_append_cons_iff {c : Char} (notFirst : c ≠ a) (notSecond : c ≠ b)
    {before after : List Char} :
    [a, b] <:+: before ++ c :: after ↔ [a, b] <:+: before ∨ [a, b] <:+: after := by
  induction before with
  | nil => simp [pair_cons_of_ne notFirst]
  | cons d before induction =>
      have next : (before ++ c :: after).head? = some b ↔ before.head? = some b := by
        cases before with
        | nil => simp [notSecond]
        | cons e before => simp
      rw [List.cons_append, pair_cons_iff, pair_cons_iff, induction, next, or_assoc]

end Pairs

end Runbook.Text
