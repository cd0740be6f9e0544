import Runbook.Proofs.Text.Splitting
import Runbook.Proofs.Text.Stripping
import Runbook.Script.LogicalLine

/-! # Logical lines

A logical line starts with a mark that does not open a comment, and only the last
one can end in a backslash. Lines that are like this already are read as they are.
-/

namespace Runbook.Script

open Text (isMark isBlank Unbroken)

/-- What a line says, without the blanks around it. -/
def LogicalLine.content (line : LogicalLine) : List Char := Text.strip line.text

/-- How far a line is indented. -/
def LogicalLine.width (line : LogicalLine) : Nat := (margin line.text).length

/-- A line that is neither blank nor a comment. -/
def Counts (text : List Char) : Prop := ∃ mark, text.find? isMark = some mark ∧ mark ≠ '#'

theorem isIgnored_eq_false_iff (text : List Char) : isIgnored text = false ↔ Counts text := by
  have first := Text.head?_strip text
  rw [isIgnored, isComment, Counts, ← first]
  cases Text.strip text <;> simp

/-! ## Lines that count -/

theorem withoutLineEnd_append (text : List Char) :
    ∃ dropped, text = withoutLineEnd text ++ dropped ∧ ∀ c ∈ dropped, isBlank c = true := by
  refine ⟨text.rtakeWhile fun c => c == '\r' || c == '\n', ?_, ?_⟩
  · rw [withoutLineEnd, Text.dropEndWhile_eq_rdropWhile, List.rdropWhile_append_rtakeWhile]
  · intro c member
    have ends := List.mem_rtakeWhile_imp member
    simp only [Bool.or_eq_true, beq_iff_eq] at ends
    rcases ends with rfl | rfl <;> decide

theorem counts_withoutLineEnd {text : List Char} (counts : Counts text) :
    Counts (withoutLineEnd text) := by
  rcases withoutLineEnd_append text with ⟨dropped, parts, blank⟩
  rcases counts with ⟨mark, found, notComment⟩
  have none_ : dropped.find? isMark = none := by
    rw [List.find?_eq_none]
    intro c member
    simp [isMark, blank c member]
  rw [parts, List.find?_append, none_, Option.or_none] at found
  exact ⟨mark, found, notComment⟩

theorem withoutLineEnd_of_unbroken {text : List Char} (unbroken : Unbroken text) :
    withoutLineEnd text = text := by
  rw [withoutLineEnd, Text.dropEndWhile_eq_rdropWhile, List.rdropWhile_eq_self_iff]
  intro nonempty ends
  have plain := unbroken _ (List.getLast_mem nonempty)
  simp only [Bool.or_eq_true, beq_iff_eq] at ends
  rcases ends with equal | equal <;>
    · rw [equal] at plain
      exact absurd plain (by decide)

theorem counts_of_mem_keptFrom {lines : List (List Char)} {number : Nat} {line : LogicalLine}
    (member : line ∈ keptFrom number lines) : Counts line.text := by
  induction lines generalizing number with
  | nil => simp [keptFrom] at member
  | cons text rest induction =>
      rw [keptFrom] at member
      split at member
      · exact induction member
      · rename_i kept
        rcases List.mem_cons.mp member with rfl | member
        · exact counts_withoutLineEnd
            ((isIgnored_eq_false_iff text).mp (Bool.eq_false_iff.mpr kept))
        · exact induction member

theorem unbroken_of_mem_keptFrom {lines : List (List Char)} {number : Nat} {line : LogicalLine}
    (unbroken : ∀ text ∈ lines, Unbroken text) (member : line ∈ keptFrom number lines) :
    Unbroken line.text := by
  induction lines generalizing number with
  | nil => simp [keptFrom] at member
  | cons text rest induction =>
      have restUnbroken : ∀ other ∈ rest, Unbroken other :=
        fun other inRest => unbroken other (List.mem_cons_of_mem _ inRest)
      rw [keptFrom] at member
      split at member
      · exact induction restUnbroken member
      · rcases List.mem_cons.mp member with rfl | member
        · have first := unbroken text (List.mem_cons_self ..)
          exact (withoutLineEnd_of_unbroken first).symm ▸ first
        · exact induction restUnbroken member

/-- Nothing is dropped from lines that all count and have no line ends. -/
theorem keptFrom_map_text {lines : List (List Char)} (number : Nat)
    (counts : ∀ text ∈ lines, Counts text) (bare : ∀ text ∈ lines, withoutLineEnd text = text) :
    (keptFrom number lines).map LogicalLine.text = lines := by
  induction lines generalizing number with
  | nil => rfl
  | cons text rest induction =>
      have kept := (isIgnored_eq_false_iff text).mpr (counts text (List.mem_cons_self ..))
      rw [keptFrom, kept, if_neg (by decide), List.map_cons,
        bare text (List.mem_cons_self ..),
        induction (number + 1) (fun other member => counts other (List.mem_cons_of_mem _ member))
          fun other member => bare other (List.mem_cons_of_mem _ member)]

/-! ## Continued lines -/

/-- A line goes on if its last mark is a backslash. -/
theorem continued?_eq_none_iff (text : List Char) :
    continued? text = none ↔ text.reverse.find? isMark ≠ some '\\' := by
  rw [← Text.getLast?_stripRight, continued?]
  by_cases last : (Text.stripRight text).getLast? = some '\\' <;> simp [last]

theorem continued?_eq_some {text start : List Char} (goesOn : continued? text = some start) :
    start ++ ['\\'] <+: text := by
  rw [continued?] at goesOn
  split at goesOn
  · rename_i last
    rcases List.getLast?_eq_some_iff.mp (eq_of_beq last) with ⟨before, parts⟩
    rcases Option.some.inj goesOn with rfl
    rw [parts, List.dropLast_concat, ← parts, Text.stripRight, Text.dropEndWhile_eq_rdropWhile]
    exact List.rdropWhile_prefix _ _
  · contradiction

/-- What holds of the source lines holds of the logical lines if it survives joining. -/
theorem forall_joinContinued {P : List Char → Prop}
    (join : ∀ text start next, P text → continued? text = some start → P next → P (start ++ next))
    {current : LogicalLine} {rest : List LogicalLine} (first : P current.text)
    (others : ∀ line ∈ rest, P line.text) :
    ∀ line ∈ joinContinued current rest, P line.text := by
  fun_induction joinContinued current rest with
  | case1 current => simpa using first
  | case2 current next rest start goesOn induction =>
      have nextHolds := others next (List.mem_cons_self ..)
      exact induction (join _ _ _ first goesOn nextHolds)
        fun line member => others line (List.mem_cons_of_mem _ member)
  | case3 current next rest ends induction =>
      intro line member
      rcases List.mem_cons.mp member with rfl | member
      · exact first
      · exact induction (others next (List.mem_cons_self ..))
          (fun line member => others line (List.mem_cons_of_mem _ member)) line member

theorem Counts.join {text start next : List Char} (counts : Counts text)
    (goesOn : continued? text = some start) (nextCounts : Counts next) :
    Counts (start ++ next) := by
  rcases continued?_eq_some goesOn with ⟨behind, whole⟩
  rcases counts with ⟨mark, found, notComment⟩
  rw [Counts, List.find?_append]
  cases inStart : start.find? isMark with
  | none => exact nextCounts
  | some first =>
      rw [← whole, List.append_assoc, List.find?_append, inStart, Option.some_or] at found
      exact ⟨first, rfl, Option.some.inj found ▸ notComment⟩

theorem unbroken_join {text start next : List Char} (unbroken : Unbroken text)
    (goesOn : continued? text = some start) (nextUnbroken : Unbroken next) :
    Unbroken (start ++ next) := by
  have inside := (continued?_eq_some goesOn).subset
  exact (unbroken.subset fun c member => inside (List.mem_append_left _ member)).append
    nextUnbroken

theorem joinContinued_ne_nil (current : LogicalLine) (rest : List LogicalLine) :
    joinContinued current rest ≠ [] := by
  fun_induction joinContinued current rest <;> simp_all

/-- Only the last of the joined lines can still end in a backslash. -/
theorem continued?_of_mem_dropLast {current line : LogicalLine} {rest : List LogicalLine}
    (member : line ∈ (joinContinued current rest).dropLast) : continued? line.text = none := by
  fun_induction joinContinued current rest with
  | case1 current => simp at member
  | case2 current next rest start goesOn induction => exact induction member
  | case3 current next rest ends induction =>
      rw [List.dropLast_cons_of_ne_nil (joinContinued_ne_nil next rest)] at member
      rcases List.mem_cons.mp member with rfl | member
      · exact ends
      · exact induction member

theorem joinContinued_eq_self {current : LogicalLine} {rest : List LogicalLine}
    (ends : ∀ line ∈ (current :: rest).dropLast, continued? line.text = none) :
    joinContinued current rest = current :: rest := by
  induction rest generalizing current with
  | nil => rfl
  | cons next rest induction =>
      rw [List.dropLast_cons_cons] at ends
      rw [joinContinued, ends current (List.mem_cons_self ..)]
      exact congrArg (current :: ·)
        (induction fun line member => ends line (List.mem_cons_of_mem _ member))

/-! ## Logical lines -/

/-- What holds of the lines that count holds of the logical lines if it survives joining. -/
theorem forall_logicalLines {P : List Char → Prop}
    (join : ∀ text start next, P text → continued? text = some start → P next → P (start ++ next))
    {lines : List (List Char)} (counting : ∀ line ∈ keptFrom 1 lines, P line.text) :
    ∀ line ∈ logicalLines lines, P line.text := by
  intro line member
  rw [logicalLines] at member
  split at member
  · contradiction
  · rename_i first rest kept
    rw [kept] at counting
    exact forall_joinContinued join (counting first (List.mem_cons_self ..))
      (fun other inRest => counting other (List.mem_cons_of_mem _ inRest)) line member

theorem counts_of_mem_logicalLines {lines : List (List Char)} {line : LogicalLine}
    (member : line ∈ logicalLines lines) : Counts line.text :=
  forall_logicalLines (fun _ _ _ => Counts.join) (fun _ => counts_of_mem_keptFrom) line member

theorem unbroken_of_mem_logicalLines {lines : List (List Char)} {line : LogicalLine}
    (unbroken : ∀ text ∈ lines, Unbroken text) (member : line ∈ logicalLines lines) :
    Unbroken line.text :=
  forall_logicalLines (fun _ _ _ => unbroken_join)
    (fun _ => unbroken_of_mem_keptFrom unbroken) line member

theorem continued?_of_mem_logicalLines {lines : List (List Char)} {line : LogicalLine}
    (member : line ∈ (logicalLines lines).dropLast) : continued? line.text = none := by
  rw [logicalLines] at member
  split at member
  · contradiction
  · exact continued?_of_mem_dropLast member

/-- Lines that count and do not go on, the last one apart, are logical lines as they
are. -/
theorem logicalLines_map_text {lines : List (List Char)} (counts : ∀ text ∈ lines, Counts text)
    (bare : ∀ text ∈ lines, withoutLineEnd text = text)
    (ends : ∀ text ∈ lines.dropLast, continued? text = none) :
    (logicalLines lines).map LogicalLine.text = lines := by
  have kept := keptFrom_map_text 1 counts bare
  rw [logicalLines]
  cases all : keptFrom 1 lines with
  | nil => rwa [all] at kept
  | cons first rest =>
      rw [all] at kept
      have keptEnds : ∀ line ∈ (first :: rest).dropLast, continued? line.text = none := by
        intro line member
        apply ends
        rw [← kept, ← List.map_dropLast]
        exact List.mem_map_of_mem member
      simpa only [joinContinued_eq_self keptEnds] using kept

end Runbook.Script
