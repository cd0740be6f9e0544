import Runbook.Text.Lines

/-! # The lines of a text

No line of a text holds a character that ends a line, and lines without such
characters are found again when each of them is written with a newline behind it.
A text whose line ends have been unified has the same lines as before.
-/

namespace Runbook.Text

/-- A line that holds no character that ends a line. -/
def Unbroken (line : List Char) : Prop := ∀ c ∈ line, isLineBreak c = false

theorem Unbroken.cons {c : Char} {line : List Char} (plain : isLineBreak c = false)
    (unbroken : Unbroken line) : Unbroken (c :: line) := by
  intro other member
  rcases List.mem_cons.mp member with equal | member
  · exact equal ▸ plain
  · exact unbroken other member

theorem Unbroken.append {first second : List Char} (firstUnbroken : Unbroken first)
    (secondUnbroken : Unbroken second) : Unbroken (first ++ second) := by
  intro c member
  rcases List.mem_append.mp member with member | member
  · exact firstUnbroken c member
  · exact secondUnbroken c member

theorem Unbroken.subset {line part : List Char} (unbroken : Unbroken line)
    (inside : part ⊆ line) : Unbroken part :=
  fun c member => unbroken c (inside member)

theorem unbroken_of_mem_collect (current text : List Char) (open_ : Unbroken current) :
    ∀ line ∈ splitLines.collect current text, Unbroken line := by
  fun_induction splitLines.collect current text with
  | case1 => simp
  | case2 current nonempty =>
      intro line member
      rw [List.mem_singleton] at member
      exact member ▸ open_.subset (List.reverse_subset.mpr (List.Subset.refl _))
  | case3 current rest induction =>
      intro line member
      rcases List.mem_cons.mp member with equal | member
      · exact equal ▸ open_.subset (List.reverse_subset.mpr (List.Subset.refl _))
      · exact induction (by simp [Unbroken]) line member
  | case4 current c rest notPair ends induction =>
      intro line member
      rcases List.mem_cons.mp member with equal | member
      · exact equal ▸ open_.subset (List.reverse_subset.mpr (List.Subset.refl _))
      · exact induction (by simp [Unbroken]) line member
  | case5 current c rest notPair plain induction =>
      exact induction (open_.cons (by simpa using plain))

theorem unbroken_of_mem_splitLines {text line : List Char} (member : line ∈ splitLines text) :
    Unbroken line :=
  unbroken_of_mem_collect [] text (by simp [Unbroken]) line member

/-! ## Characters one by one -/

/-- Only a carriage return that stands before a newline ends a line together with the
character behind it. -/
theorem collect_cons {c : Char} {rest : List Char} (current : List Char)
    (single : c = '\r' → rest.head? ≠ some '\n') :
    splitLines.collect current (c :: rest) =
      if isLineBreak c then current.reverse :: splitLines.collect [] rest
      else splitLines.collect (c :: current) rest := by
  rw [splitLines.collect.eq_def]
  split
  · contradiction
  · rename_i equal
    rcases List.cons.inj equal with ⟨rfl, rfl⟩
    exact absurd rfl (single rfl)
  · rename_i equal
    rcases List.cons.inj equal with ⟨rfl, rfl⟩
    rfl

theorem collect_newline (current rest : List Char) :
    splitLines.collect current ('\n' :: rest) =
      current.reverse :: splitLines.collect [] rest := by
  rw [collect_cons current fun same => absurd same (by decide), if_pos (by decide)]

/-! ## Writing lines -/

/-- Lines with a newline behind each of them. -/
def joinLines (lines : List (List Char)) : List Char := lines.flatMap (· ++ ['\n'])

theorem joinLines_cons (line : List Char) (lines : List (List Char)) :
    joinLines (line :: lines) = line ++ '\n' :: joinLines lines := by
  rw [joinLines, List.flatMap_cons, List.append_assoc]
  rfl

theorem joinLines_append (first second : List (List Char)) :
    joinLines (first ++ second) = joinLines first ++ joinLines second :=
  List.flatMap_append

theorem collect_append_newline (current line rest : List Char) (unbroken : Unbroken line) :
    splitLines.collect current (line ++ '\n' :: rest) =
      (current.reverse ++ line) :: splitLines.collect [] rest := by
  induction line generalizing current with
  | nil => rw [List.nil_append, collect_newline, List.append_nil]
  | cons c line induction =>
      have plain : isLineBreak c = false := unbroken c (List.mem_cons_self ..)
      have tail : Unbroken line := unbroken.subset (List.subset_cons_self c line)
      have notReturn : c ≠ '\r' := by
        intro equal
        rw [equal] at plain
        exact absurd plain (by decide)
      rw [List.cons_append, collect_cons current fun same => absurd same notReturn, plain,
        if_neg (by decide), induction _ tail]
      simp

theorem splitLines_joinLines (lines : List (List Char))
    (unbroken : ∀ line ∈ lines, Unbroken line) : splitLines (joinLines lines) = lines := by
  induction lines with
  | nil => rfl
  | cons line lines induction =>
      have rest := induction fun other member => unbroken other (List.mem_cons_of_mem _ member)
      rw [splitLines] at rest ⊢
      rw [joinLines_cons, collect_append_newline [] line _ (unbroken line (List.mem_cons_self ..)),
        List.reverse_nil, List.nil_append, rest]

/-! ## Unified line ends -/

/-- A break is one line end before and after unifying, whatever stands around it. -/
theorem collect_unifyNewlines (current text : List Char) :
    splitLines.collect current (unifyNewlines text) = splitLines.collect current text := by
  fun_induction unifyNewlines text generalizing current with
  | case1 => rfl
  | case2 rest induction => rw [collect_newline, induction, splitLines.collect]
  | case3 rest notPair induction =>
      have single : rest.head? ≠ some '\n' := by
        intro newline
        rcases List.head?_eq_some_iff.mp newline with ⟨behind, rfl⟩
        exact notPair behind rfl
      rw [collect_newline, induction, collect_cons current fun _ => single, if_pos (by decide)]
  | case4 c rest _ notReturn induction =>
      rw [collect_cons current fun same => absurd same notReturn,
        collect_cons current fun same => absurd same notReturn, induction, induction]

theorem splitLines_unifyNewlines (text : List Char) :
    splitLines (unifyNewlines text) = splitLines text :=
  collect_unifyNewlines [] text

end Runbook.Text
