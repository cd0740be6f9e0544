import Runbook.Proofs.Script.Nesting
import Runbook.Proofs.Script.Numbering

/-! # Scripts that cannot be read

Reading a script fails at the first line that does not fit behind the lines before
it. Such a line either has both blanks and tabs in its margin, or goes back to a width
at which nothing is open. What is open at a width can be told from the lines: some
line of this width, and no narrower line behind it.
-/

namespace Runbook.Script

open Layout (innermost)

/-! ## Lines that do not fit -/

def LogicalLine.IsMixed (line : LogicalLine) : Prop :=
  ' ' ∈ margin line.text ∧ '\t' ∈ margin line.text

/-- A line that is narrower than the line before it, and indented, but not as wide as
any block that is still open. -/
structure Strays (before : List LogicalLine) (line : LogicalLine) : Prop where
  narrower : ∃ previous, before.getLast? = some previous ∧ line.width < previous.width
  indented : 0 < line.width
  unopened : ¬∃ earlier opener between, before = earlier ++ opener :: between ∧
    opener.width = line.width ∧ ∀ other ∈ between, line.width ≤ other.width

/-- A line that does not fit behind the lines before it. -/
def Misfits (before : List LogicalLine) (line : LogicalLine) : Prop :=
  line.IsMixed ∨ Strays before line

/-- The first line of a script that does not fit. -/
def FirstMisfit (script : List LogicalLine) (line : LogicalLine) : Prop :=
  ∃ before after, script = before ++ line :: after ∧ Misfits before line ∧
    ∀ earlier other later, before = earlier ++ other :: later → ¬Misfits earlier other

/-! ## Open widths -/

/-- The width of the nearest line before that is not wider, and zero if there is none. -/
def nearestWidth (before : List LogicalLine) (width : Nat) : Nat :=
  ((before.reverse.find? (·.width ≤ width)).map (·.width)).getD 0

theorem nearestWidth_of_opener {earlier between : List LogicalLine} {opener : LogicalLine}
    (wide : ∀ other ∈ between, opener.width ≤ other.width) :
    nearestWidth (earlier ++ opener :: between) opener.width = opener.width := by
  have shape : (earlier ++ opener :: between).reverse =
      between.reverse ++ opener :: earlier.reverse := by simp
  rw [nearestWidth, shape, List.find?_append]
  cases found : between.reverse.find? (·.width ≤ opener.width) with
  | none => simp
  | some other =>
      have member := List.mem_reverse.mp (List.mem_of_find?_eq_some found)
      have narrow := List.find?_some found
      have wide := wide other member
      simp only [decide_eq_true_eq] at narrow
      simp only [Option.some_or, Option.map_some, Option.getD_some]
      omega

theorem exists_opener_of_nearestWidth {before : List LogicalLine} {width : Nat}
    (indented : 0 < width) (isOpen : nearestWidth before width = width) :
    ∃ earlier opener between, before = earlier ++ opener :: between ∧
      opener.width = width ∧ ∀ other ∈ between, width ≤ other.width := by
  rw [nearestWidth] at isOpen
  cases found : before.reverse.find? (·.width ≤ width) with
  | none =>
      rw [found] at isOpen
      simp only [Option.map_none, Option.getD_none] at isOpen
      omega
  | some opener =>
      rw [found, Option.map_some, Option.getD_some] at isOpen
      rcases List.find?_eq_some_iff_append.mp found with ⟨_, after, earlier, parts, wider⟩
      have shape : before = earlier.reverse ++ opener :: after.reverse := by
        rw [← List.reverse_reverse before, parts]
        simp
      refine ⟨earlier.reverse, opener, after.reverse, shape, isOpen, fun other member => ?_⟩
      have wide := wider other (List.mem_reverse.mp member)
      simp only [Bool.not_eq_true', decide_eq_false_iff_not] at wide
      omega

theorem nearestWidth_zero (before : List LogicalLine) : nearestWidth before 0 = 0 := by
  rw [nearestWidth]
  cases found : before.reverse.find? (·.width ≤ 0) with
  | none => rfl
  | some line => simpa using List.find?_some found

theorem strays_iff (before : List LogicalLine) (line : LogicalLine) :
    Strays before line ↔
      line.width < ((before.getLast?).map (·.width)).getD 0 ∧
        line.width ≠ nearestWidth before line.width := by
  constructor
  · intro strays
    rcases strays.narrower with ⟨previous, last, narrower⟩
    refine ⟨by rw [last]; exact narrower, fun isOpen => ?_⟩
    exact strays.unopened (exists_opener_of_nearestWidth strays.indented isOpen.symm)
  · rintro ⟨narrower, closed⟩
    constructor
    case narrower =>
      cases last : before.getLast? with
      | none =>
          rw [last] at narrower
          exact absurd narrower (Nat.not_lt_zero _)
      | some previous =>
          rw [last] at narrower
          exact ⟨previous, rfl, narrower⟩
    case indented =>
      rcases Nat.eq_zero_or_pos line.width with flush | indented
      · rw [flush, nearestWidth_zero] at closed
        contradiction
      · exact indented
    case unopened =>
      rintro ⟨earlier, opener, between, rfl, same, wide⟩
      rw [← same] at wide closed
      exact closed (nearestWidth_of_opener wide).symm

/-! ## Placing -/

/-- A layout in which nothing is open at the width of a line that is narrower than the
innermost open block. -/
def Layout.Closed (layout : Layout) (width : Nat) : Prop :=
  width < (innermost layout.nested).indentation ∧
    width ≠ (innermost (layout.nested.dropWhile fun block =>
      width < block.indentation)).indentation

/-- The fault that comes first when a line cannot be placed. -/
inductive Refused (layout : Layout) (line : LogicalLine) : IndentationFault → Prop
  | mixed (both : line.IsMixed) : Refused layout line .mixed
  | unmatched (plain : ¬line.IsMixed) (closed : layout.Closed line.width) :
      Refused layout line .unmatched

theorem indentation_of_isMixed {line : LogicalLine} (both : line.IsMixed) :
    line.indentation = .error ⟨.mixed, line⟩ := by
  rw [LogicalLine.indentation, if_pos]
  simpa [LogicalLine.IsMixed] using both

theorem place_eq_error_iff (layout : Layout) (line : LogicalLine) (error : IndentationError) :
    layout.place line = .error error ↔ error.line = line ∧ Refused layout line error.fault := by
  rcases error with ⟨fault, other⟩
  by_cases both : line.IsMixed
  · rw [Layout.place, indentation_of_isMixed both]
    constructor
    · rintro ⟨⟩
      exact ⟨rfl, .mixed both⟩
    · rintro ⟨rfl, refused⟩
      cases refused with
      | mixed => rfl
      | unmatched plain => exact absurd both plain
  · have plain : line.indentation = .ok line.width := (indentation_eq_ok_iff line _).mpr ⟨both, rfl⟩
    rw [Layout.place, plain]
    simp only [bind, Except.bind, pure, Except.pure]
    constructor
    · intro result
      split at result
      · rename_i shallower
        split at result
        · contradiction
        · rename_i differs
          cases result
          exact ⟨rfl, .unmatched both ⟨shallower, differs⟩⟩
      · split at result
        · contradiction
        · contradiction
    · rintro ⟨rfl, refused⟩
      cases refused with
      | mixed mixed => exact absurd mixed both
      | unmatched _ closed =>
          rw [if_pos closed.1, if_neg closed.2]
          rfl

/-! ## Placing a whole script -/

theorem Reads.innermost_indentation {history : List Placement} {layout : Layout}
    (read : Reads history layout) :
    (innermost layout.nested).indentation = ((history.head?).map (·.width)).getD 0 := by
  cases read with
  | start => rfl
  | step _ step => exact step.indentation_eq

theorem widths_eq_of_matches {lines : List LogicalLine} {placements : List Placement}
    (same : List.Forall₂ LogicalLine.Matches lines placements) :
    placements.map (·.width) = lines.map (·.width) := by
  induction same with
  | nil => rfl
  | cons first _ induction => rw [List.map_cons, List.map_cons, induction, first.1]

/-- What is open after some lines is what these lines say. -/
theorem closed_iff {before : List LogicalLine} {layout : Layout}
    (placed : before.foldlM Layout.place Layout.empty = .ok layout) (width : Nat) :
    layout.Closed width ↔ width < ((before.getLast?).map (·.width)).getD 0 ∧
      width ≠ nearestWidth before width := by
  rcases reads_of_foldlM .start placed with ⟨added, read, same⟩
  rw [List.append_nil] at read
  have widths := widths_eq_of_matches same
  have last : ((added.reverse.head?).map (·.width)).getD 0 =
      ((before.getLast?).map (·.width)).getD 0 := by
    rw [List.head?_reverse, ← List.getLast?_map, widths, List.getLast?_map]
  have nearest : (added.reverse.find? (·.width ≤ width)).map (·.width) =
      (before.reverse.find? (·.width ≤ width)).map (·.width) := by
    have placements := List.find?_map (p := (· ≤ width)) (f := Placement.width)
      (l := added.reverse)
    have lines := List.find?_map (p := (· ≤ width)) (f := LogicalLine.width)
      (l := before.reverse)
    rw [List.map_reverse] at placements lines
    rw [widths] at placements
    exact placements.symm.trans lines
  rw [Layout.Closed, read.innermost_indentation, read.innermost_dropWhile, last, nearestWidth,
    ← nearest]
  cases added.reverse.find? (·.width ≤ width) with
  | none => rfl
  | some placement => rfl

/-- A line is refused behind others if and only if it does not fit behind them. -/
theorem exists_refused_iff {before : List LogicalLine} {layout : Layout} {line : LogicalLine}
    (placed : before.foldlM Layout.place Layout.empty = .ok layout) :
    (∃ fault, Refused layout line fault) ↔ Misfits before line := by
  rw [Misfits, strays_iff, ← closed_iff placed]
  constructor
  · rintro ⟨_, refused⟩
    cases refused with
    | mixed both => exact .inl both
    | unmatched _ closed => exact .inr closed
  · intro misfits
    by_cases both : line.IsMixed
    · exact ⟨_, .mixed both⟩
    · exact ⟨_, .unmatched both (misfits.resolve_left both)⟩

theorem Refused.fault_eq_mixed_iff {layout : Layout} {line : LogicalLine}
    {fault : IndentationFault} (refused : Refused layout line fault) :
    fault = .mixed ↔ line.IsMixed := by
  cases refused with
  | mixed both => simp [both]
  | unmatched plain => simp [plain]

/-- Every line of a script fits behind the lines before it. -/
def Fitting (script : List LogicalLine) : Prop :=
  ∀ before line after, script = before ++ line :: after → ¬Misfits before line

theorem fitting_append_iff (script : List LogicalLine) (line : LogicalLine) :
    Fitting (script ++ [line]) ↔ Fitting script ∧ ¬Misfits script line := by
  constructor
  · intro fitting
    refine ⟨fun before other after shape => ?_, fitting script line [] rfl⟩
    exact fitting before other (after ++ [line]) (by simp [shape])
  · rintro ⟨fitting, fits⟩ before other after shape
    rcases List.eq_nil_or_concat after with rfl | ⟨after, last, rfl⟩
    · rcases List.append_inj' shape rfl with ⟨rfl, same⟩
      cases same
      exact fits
    · rw [List.concat_eq_append, ← List.cons_append, ← List.append_assoc] at shape
      exact fitting before other after (List.append_inj' shape rfl).1

/-- Placing the lines of a script succeeds as long as they fit, and fails at the first that
does not. -/
theorem foldlM_place (script : List LogicalLine) :
    (Fitting script ∧ ∃ layout, script.foldlM Layout.place Layout.empty = .ok layout) ∨
      ∃ error, script.foldlM Layout.place Layout.empty = .error error ∧
        FirstMisfit script error.line ∧ (error.fault = .mixed ↔ error.line.IsMixed) := by
  induction script using List.reverseRecOn with
  | nil => exact .inl ⟨fun before line after shape => by simp at shape, _, rfl⟩
  | append_singleton script line induction =>
      rw [List.foldlM_append]
      rcases induction with ⟨fitting, layout, placed⟩ | ⟨error, failed, first, fault⟩
      · rw [placed]
        simp only [bind, Except.bind, List.foldlM_cons, List.foldlM_nil]
        cases result : layout.place line with
        | ok next =>
            have fits : ¬Misfits script line := by
              intro misfits
              rcases (exists_refused_iff placed).mpr misfits with ⟨fault, refused⟩
              have failed := (place_eq_error_iff layout line ⟨fault, line⟩).mpr ⟨rfl, refused⟩
              rw [result] at failed
              contradiction
            exact .inl ⟨(fitting_append_iff script line).mpr ⟨fitting, fits⟩, next, rfl⟩
        | error error =>
            rcases (place_eq_error_iff layout line error).mp result with ⟨rfl, refused⟩
            have misfits := (exists_refused_iff placed).mp ⟨_, refused⟩
            exact .inr ⟨error, rfl, ⟨script, [], rfl, misfits, fitting⟩,
              refused.fault_eq_mixed_iff⟩
      · rw [failed]
        rcases first with ⟨before, after, rfl, misfits, earliest⟩
        exact .inr ⟨error, rfl, ⟨before, after ++ [line], by simp, misfits, earliest⟩, fault⟩

/-- A script cannot be read if and only if some line does not fit. The error is about the
first such line, with the number of the source line that it starts on. -/
theorem ofLines_fails_at_first_misfit (lines : List (List Char)) :
    ((∃ error, ofLines lines = .error error) ↔
        ∃ before line after, logicalLines lines = before ++ line :: after ∧
          Misfits before line) ∧
      (∀ error, ofLines lines = .error error →
        FirstMisfit (logicalLines lines) error.line ∧ StartsOn lines error.line ∧
          (error.fault = .mixed ↔ error.line.IsMixed)) ∧
      ((∃ outline, ofLines lines = .ok outline) ↔ Fitting (logicalLines lines)) := by
  rw [ofLines]
  rcases foldlM_place (logicalLines lines) with
    ⟨fitting, layout, placed⟩ | ⟨error, failed, first, fault⟩
  · rw [placed]
    refine ⟨⟨?_, ?_⟩, ?_, ⟨fun _ => fitting, fun _ => ⟨_, rfl⟩⟩⟩
    · rintro ⟨_, ⟨⟩⟩
    · rintro ⟨before, line, after, shape, misfits⟩
      exact absurd misfits (fitting before line after shape)
    · rintro _ ⟨⟩
  · rw [failed]
    have found := first
    rcases found with ⟨before, after, shape, misfits, _⟩
    have member : error.line ∈ logicalLines lines := by simp [shape]
    refine ⟨⟨fun _ => ⟨before, error.line, after, shape, misfits⟩, fun _ => ⟨_, rfl⟩⟩, ?_, ?_, ?_⟩
    · rintro _ ⟨⟩
      exact ⟨first, mem_logicalLines_iff.mp member, fault⟩
    · rintro ⟨_, ⟨⟩⟩
    · intro fitting
      exact absurd misfits (fitting before error.line after shape)

/-- A script that goes back to a width between two others. A comment, a continued line and
a blank line stand before the line that does so. -/
def strayingLines : List (List Char) :=
  ["# a".toList, "b".toList, "    c \\".toList, "  d".toList, [], "  e".toList, " f".toList]

theorem strayingLines_fail :
    ofLines strayingLines = .error ⟨.unmatched, ⟨6, "  e".toList⟩⟩ ∧
      FirstMisfit (logicalLines strayingLines) ⟨6, "  e".toList⟩ ∧
      StartsOn strayingLines ⟨6, "  e".toList⟩ := by
  have failed : ofLines strayingLines = .error ⟨.unmatched, ⟨6, "  e".toList⟩⟩ := by decide +kernel
  have first := (ofLines_fails_at_first_misfit strayingLines).2.1 _ failed
  exact ⟨failed, first.1, first.2.1⟩

end Runbook.Script
