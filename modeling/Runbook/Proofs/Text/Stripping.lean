import Mathlib.Data.List.DropRight
import Runbook.Text.Blank

/-! # Blanks at the ends of a text

What is left of a text when blanks are cut off its ends starts and ends with its
first and its last character that is not blank, and blanks that are put in front
of it are cut off again.
-/

namespace Runbook.Text

/-- A character that is neither cut off nor passed over when text is stripped. -/
def isMark (c : Char) : Bool := !isBlank c

@[simp] theorem isMark_eq_false_iff (c : Char) : isMark c = false ↔ isBlank c = true := by
  simp [isMark]

theorem dropEndWhile_eq_rdropWhile (drop : Char → Bool) (text : List Char) :
    dropEndWhile drop text = text.rdropWhile drop := by
  induction text with
  | nil => rfl
  | cons c rest induction =>
      rw [dropEndWhile, induction]
      by_cases empty : rest.rdropWhile drop = []
      · have dropped := List.rdropWhile_eq_nil_iff.mp empty
        cases last : drop c with
        | true =>
            have all : (c :: rest).rdropWhile drop = [] :=
              List.rdropWhile_eq_nil_iff.mpr (by simpa [last] using dropped)
            simp [empty, all]
        | false =>
            have kept : rest.reverse.dropWhile drop = [] := by simpa using dropped
            simp [List.rdropWhile, List.dropWhile_append, kept, last]
      · have kept : rest.reverse.dropWhile drop ≠ [] := by simpa [List.rdropWhile] using empty
        have same : (c :: rest).rdropWhile drop = c :: rest.rdropWhile drop := by
          simp [List.rdropWhile, List.dropWhile_append, List.isEmpty_iff, kept]
        rw [same]
        split
        · contradiction
        · rfl

/-! ## The first and the last mark -/

theorem head?_dropWhile_isBlank (text : List Char) :
    (text.dropWhile isBlank).head? = text.find? isMark := by
  induction text with
  | nil => rfl
  | cons c rest induction =>
      cases blank : isBlank c <;> simp [blank, isMark, induction]

theorem getLast?_stripRight (text : List Char) :
    (stripRight text).getLast? = text.reverse.find? isMark := by
  rw [stripRight, dropEndWhile_eq_rdropWhile, List.rdropWhile, List.getLast?_reverse]
  exact head?_dropWhile_isBlank text.reverse

theorem head?_stripRight (text : List Char) (c : Char) (mark : isMark c = true) :
    (stripRight (c :: text)).head? = some c := by
  have notBlank : isBlank c = false := by simpa [isMark] using mark
  rw [stripRight, dropEndWhile]
  split
  · simp [notBlank]
  · rfl

theorem head?_strip (text : List Char) : (strip text).head? = text.find? isMark := by
  rw [strip]
  have first : (stripLeft text).head? = text.find? isMark := head?_dropWhile_isBlank text
  cases left : stripLeft text with
  | nil =>
      rw [left] at first
      exact first
  | cons c rest =>
      rw [left] at first
      have mark : isMark c = true := List.find?_some first.symm
      rw [head?_stripRight rest c mark]
      exact first

theorem getLast?_strip (text : List Char) :
    (strip text).getLast? = text.reverse.find? isMark := by
  have passed : (text.takeWhile isBlank).reverse.find? isMark = none := by
    rw [List.find?_eq_none]
    intro c member
    have blank := List.mem_takeWhile_imp (List.mem_reverse.mp member)
    simp [isMark, blank]
  have parts := (List.takeWhile_append_dropWhile (p := isBlank) (l := text)).symm
  calc
    (strip text).getLast? = (text.dropWhile isBlank).reverse.find? isMark :=
      getLast?_stripRight _
    _ = ((text.dropWhile isBlank).reverse ++ (text.takeWhile isBlank).reverse).find? isMark := by
      rw [List.find?_append, passed, Option.or_none]
    _ = text.reverse.find? isMark := by
      rw [← List.reverse_append, ← parts]

theorem strip_subset (text : List Char) : strip text ⊆ text := by
  rw [strip, stripRight, dropEndWhile_eq_rdropWhile]
  exact List.Subset.trans (List.rdropWhile_prefix _ _).subset (List.dropWhile_suffix _).subset

/-- A text without blanks at its ends. -/
structure Trimmed (text : List Char) : Prop where
  first : ∀ c, text.head? = some c → isMark c = true
  last : ∀ c, text.getLast? = some c → isMark c = true

theorem trimmed_strip (text : List Char) : Trimmed (strip text) where
  first _ isFirst := List.find?_some (head?_strip text ▸ isFirst)
  last _ isLast := List.find?_some (getLast?_strip text ▸ isLast)

theorem stripRight_of_trimmed {text : List Char} (trimmed : Trimmed text) :
    stripRight text = text := by
  rw [stripRight, dropEndWhile_eq_rdropWhile, List.rdropWhile_eq_self_iff]
  intro nonempty
  have mark := trimmed.last _ (List.getLast?_eq_some_getLast nonempty)
  simpa [isMark] using mark

/-- Blanks in front of a trimmed text are cut off. -/
theorem strip_append_of_trimmed {margin text : List Char}
    (blank : ∀ c ∈ margin, isBlank c = true) (trimmed : Trimmed text) :
    strip (margin ++ text) = text := by
  have cut : stripLeft (margin ++ text) = text := by
    rw [stripLeft, List.dropWhile_append_of_pos blank, List.dropWhile_eq_self_iff]
    intro nonempty
    have mark := trimmed.first _ (List.head?_eq_getElem? ▸ List.getElem?_eq_getElem nonempty)
    simpa [isMark] using mark
  rw [strip, cut, stripRight_of_trimmed trimmed]

end Runbook.Text
