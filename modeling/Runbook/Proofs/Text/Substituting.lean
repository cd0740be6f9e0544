import Mathlib.Data.List.Infix
import Runbook.Text.Substitute

/-! # Replacing texts

What replacing every occurrence of a text does at the start of another text, an induction
that follows the occurrences from left to right, and when a text is left as it is.
-/

namespace Runbook.Text

@[simp] theorem contains_eq_true_iff (part text : List Char) :
    contains part text = true ↔ part <:+: text := by
  unfold contains
  induction text with
  | nil => cases part <;> simp [splitAtFirst]
  | cons c rest induction =>
      rw [splitAtFirst, List.infix_cons_iff]
      split
      · rename_i occurs
        simp [List.isPrefixOf_iff_prefix.mp occurs]
      · rename_i differs
        have differs : ¬part <+: c :: rest := fun occurs =>
          differs (List.isPrefixOf_iff_prefix.mpr occurs)
        simp [differs, induction]

section

variable {old : List Char} (new : List Char)

@[simp] theorem substitute_nil (nonempty : old ≠ []) : substitute old new [] = [] := by
  simp [substitute, nonempty]

theorem substitute_append (nonempty : old ≠ []) (rest : List Char) :
    substitute old new (old ++ rest) = new ++ substitute old new rest := by
  cases old with
  | nil => contradiction
  | cons c old =>
      have occurs : (c :: old).isPrefixOf (c :: (old ++ rest)) = true := by
        rw [List.isPrefixOf_iff_prefix, ← List.cons_append]
        exact List.prefix_append _ _
      simp [substitute, substituteFrom, occurs, substituteFrom_eq_drop _ _ old.length]

theorem substitute_cons {c : Char} {rest : List Char} (nonempty : old ≠ [])
    (differs : ¬old <+: c :: rest) :
    substitute old new (c :: rest) = c :: substitute old new rest := by
  have differs : old.isPrefixOf (c :: rest) = false := by
    simpa [← List.isPrefixOf_iff_prefix] using differs
  simp [substitute, substituteFrom, nonempty, differs]

end

/-- Induction over a text along the occurrences of `old` that are replaced. -/
@[elab_as_elim] theorem occurrence_induction {old : List Char} (nonempty : old ≠ [])
    {motive : List Char → Prop} (nil : motive [])
    (occurs : ∀ rest, motive rest → motive (old ++ rest))
    (passes : ∀ c rest, ¬old <+: c :: rest → motive rest → motive (c :: rest))
    (text : List Char) : motive text := by
  generalize size : text.length = length
  induction length using Nat.strong_induction_on generalizing text with
  | _ length induction =>
      cases text with
      | nil => exact nil
      | cons c rest =>
          by_cases starts : old <+: c :: rest
          · rcases starts with ⟨behind, same⟩
            have positive := List.length_pos_of_ne_nil nonempty
            rw [← same, List.length_append] at size
            rw [← same]
            exact occurs behind (induction behind.length (by omega) behind rfl)
          · rw [List.length_cons] at size
            exact passes c rest starts (induction rest.length (by omega) rest rfl)

/-- Where nothing occurs that could be replaced, nothing changes. -/
theorem substitute_eq_self {old text : List Char} (new : List Char) (nonempty : old ≠ [])
    (absent : ¬old <:+: text) : substitute old new text = text := by
  induction text with
  | nil => exact substitute_nil new nonempty
  | cons c rest induction =>
      rw [List.infix_cons_iff, not_or] at absent
      rw [substitute_cons new nonempty absent.1, induction absent.2]

/-! ## Passing over a text -/

/-- No occurrence of `part` starts in `front`, which stands before `rest`. -/
def StartsNowhere (part front rest : List Char) : Prop :=
  ∀ back, back <:+ front → back ≠ [] → ¬part <+: back ++ rest

namespace StartsNowhere

variable {part front rest : List Char}

theorem of_head {c : Char} (starts : part.head? = some c) (free : c ∉ front) :
    StartsNowhere part front rest := by
  intro back ends nonempty occurs
  rcases List.exists_cons_of_ne_nil nonempty with ⟨d, back, rfl⟩
  rcases List.head?_eq_some_iff.mp starts with ⟨tail, rfl⟩
  rw [List.cons_append, List.cons_prefix_cons] at occurs
  exact free (ends.subset (occurs.1 ▸ List.mem_cons_self))

theorem of_cons {c : Char} (nowhere : StartsNowhere part (c :: front) rest) :
    ¬part <+: c :: (front ++ rest) ∧ StartsNowhere part front rest :=
  ⟨nowhere (c :: front) (List.suffix_refl _) (List.cons_ne_nil c front),
    fun back ends => nowhere back (ends.trans (List.suffix_cons c front))⟩

theorem substitute (nowhere : StartsNowhere part front rest) (nonempty : part ≠ [])
    (new : List Char) :
    Text.substitute part new (front ++ rest) = front ++ Text.substitute part new rest := by
  induction front with
  | nil => rfl
  | cons c front induction =>
      rw [List.cons_append, substitute_cons new nonempty nowhere.of_cons.1,
        induction nowhere.of_cons.2, List.cons_append]

theorem not_infix (nowhere : StartsNowhere part front rest) (absent : ¬part <:+: rest) :
    ¬part <:+: front ++ rest := by
  induction front with
  | nil => exact absent
  | cons c front induction =>
      rw [List.cons_append, List.infix_cons_iff, not_or]
      exact ⟨nowhere.of_cons.1, induction nowhere.of_cons.2⟩

end StartsNowhere

/-! ## Replacing a text by itself -/

theorem substitute_self {old : List Char} (nonempty : old ≠ []) (text : List Char) :
    substitute old old text = text := by
  induction text using occurrence_induction nonempty with
  | nil => exact substitute_nil old nonempty
  | occurs rest induction => rw [substitute_append old nonempty, induction]
  | passes c rest differs induction => rw [substitute_cons old nonempty differs, induction]

theorem substitute_append_of_untouched {old new front rest : List Char} (nonempty : old ≠ [])
    (untouched : new = old ∨ StartsNowhere old front rest) :
    substitute old new (front ++ rest) = front ++ substitute old new rest := by
  rcases untouched with rfl | nowhere
  · rw [substitute_self nonempty, substitute_self nonempty]
  · exact nowhere.substitute nonempty new

section Lengths

variable {old new : List Char} (nonempty : old ≠ [])
include nonempty

theorem length_substitute_le (shorter : new.length ≤ old.length) (text : List Char) :
    (substitute old new text).length ≤ text.length := by
  induction text using occurrence_induction nonempty with
  | nil => simp [nonempty]
  | occurs rest induction =>
      rw [substitute_append new nonempty, List.length_append, List.length_append]
      omega
  | passes c rest differs induction =>
      rw [substitute_cons new nonempty differs, List.length_cons, List.length_cons]
      omega

theorem le_length_substitute (longer : old.length ≤ new.length) (text : List Char) :
    text.length ≤ (substitute old new text).length := by
  induction text using occurrence_induction nonempty with
  | nil => simp [nonempty]
  | occurs rest induction =>
      rw [substitute_append new nonempty, List.length_append, List.length_append]
      omega
  | passes c rest differs induction =>
      rw [substitute_cons new nonempty differs, List.length_cons, List.length_cons]
      omega

/-- A text in which something is replaced stays the same only if it is replaced by itself. -/
theorem eq_of_substitute_eq_self {text : List Char} (occurs : old <:+: text)
    (same : substitute old new text = text) : new = old := by
  induction text using occurrence_induction nonempty with
  | nil => exact absurd (List.infix_nil.mp occurs) nonempty
  | occurs rest =>
      rw [substitute_append new nonempty] at same
      have lengths := congrArg List.length same
      rw [List.length_append, List.length_append] at lengths
      refine (List.append_inj same ?_).1
      rcases Nat.le_total new.length old.length with shorter | longer
      · have rests := length_substitute_le nonempty shorter rest
        omega
      · have rests := le_length_substitute nonempty longer rest
        omega
  | passes c rest differs induction =>
      rw [substitute_cons new nonempty differs] at same
      exact induction ((List.infix_cons_iff.mp occurs).resolve_left differs)
        (List.cons.inj same).2

end Lengths

end Runbook.Text
