import Runbook.Pattern.Search

/-! # Patterns that match one character

Where a pattern matches just one character, a text is cut where this character stands. The pieces
of a text cut there are what groups capture apart; a pattern without groups leaves nothing else.
-/

namespace Runbook.Pattern

/-- A pattern matches one character and nothing else: wherever the character stands in a text, the
pattern matches that much of the text, and it matches nowhere else. -/
def MatchesOnly (pattern : Pattern) (c : Char) : Prop :=
  ∀ (nonempty : Bool) (cursor : Cursor), cursor.index = cursor.before.length →
    (cursor.after.head? = some c → ∃ captures,
        pattern.matchAt nonempty cursor = some { cursor.forward with captures := captures }) ∧
      (cursor.after.head? ≠ some c → pattern.matchAt nonempty cursor = none)

section Searching

variable {pattern : Pattern} {c : Char} (only : pattern.MatchesOnly c) (nonempty : Bool)
  {cursor : Cursor} (placed : cursor.index = cursor.before.length)
include only placed

theorem matchAt_eq_none {rest : List Char} {d : Char} (stands : cursor.after = d :: rest)
    (different : d ≠ c) : pattern.matchAt nonempty cursor = none :=
  (only nonempty cursor placed).2 (by simpa [stands] using different)

/-- The first place at which the character stands is found. -/
theorem exists_searchFrom {front rest : List Char} (stands : cursor.after = front ++ c :: rest)
    (absent : c ∉ front) (skipped : List Char) {fuel : Nat} (enough : front.length < fuel) :
    ∃ finish : Cursor, pattern.searchFrom nonempty skipped fuel cursor =
        some ⟨skipped.reverse ++ front, [c], finish⟩ ∧
      finish.after = rest ∧ finish.index = finish.before.length := by
  induction front generalizing cursor skipped fuel nonempty with
  | nil =>
      rcases fuel with _ | fuel
      · contradiction
      rcases (only nonempty cursor placed).1 (by simp [stands]) with ⟨captures, matched⟩
      refine ⟨{ cursor.forward with captures := captures }, ?_, ?_, ?_⟩
      · rw [searchFrom, matched]
        simp [Cursor.textUntil, Cursor.forward, stands]
      · simp [Cursor.forward, stands]
      · simp [Cursor.forward, stands, placed]
  | cons d front induction =>
      rcases fuel with _ | fuel
      · contradiction
      simp only [List.mem_cons, not_or] at absent
      have stays : cursor.after = d :: (front ++ c :: rest) := stands
      have moved : cursor.forward.after = front ++ c :: rest := by simp [Cursor.forward, stays]
      have later : cursor.forward.index = cursor.forward.before.length := by
        simp [Cursor.forward, stays, placed]
      rcases induction false later moved absent.2 (d :: skipped) (by simpa using enough) with
        ⟨finish, found, behind, ended⟩
      refine ⟨finish, ?_, behind, ended⟩
      rw [searchFrom, matchAt_eq_none only nonempty placed stays (Ne.symm absent.1)]
      simp only [stays]
      simpa using found

theorem searchFrom_eq_none (absent : c ∉ cursor.after) (skipped : List Char) (fuel : Nat) :
    pattern.searchFrom nonempty skipped fuel cursor = none := by
  induction fuel generalizing cursor skipped nonempty with
  | zero => rfl
  | succ fuel induction =>
      rw [searchFrom]
      cases stands : cursor.after with
      | nil => rw [(only nonempty cursor placed).2 (by simp [stands])]
      | cons d rest =>
          rw [stands, List.mem_cons, not_or] at absent
          rw [matchAt_eq_none only nonempty placed stands (Ne.symm absent.1)]
          refine induction false ?_ ?_ (d :: skipped)
          · simp [Cursor.forward, stands, placed]
          · simpa [Cursor.forward, stands] using absent.2

/-- What stands between the matches, and behind the last one. -/
theorem skipped_matchesFrom {fuel : Nat} (enough : cursor.after.length < fuel) :
    (pattern.matchesFrom none fuel nonempty cursor).1.map Found.skipped ++
        [(pattern.matchesFrom none fuel nonempty cursor).2] =
      cursor.after.splitOn c := by
  induction fuel generalizing cursor nonempty with
  | zero => contradiction
  | succ fuel induction =>
      rw [matchesFrom, if_neg (by decide)]
      by_cases member : c ∈ cursor.after
      · rcases List.eq_append_cons_of_mem member with ⟨front, rest, stands, absent⟩
        have shorter : front.length + (rest.length + 1) = cursor.after.length := by simp [stands]
        rcases exists_searchFrom only nonempty placed stands absent []
          (show front.length < cursor.after.length + 1 by omega) with
          ⟨finish, found, behind, ended⟩
        have later := induction false ended (show finish.after.length < fuel by
          rw [behind]
          omega)
        rw [search, found]
        rw [stands, List.splitOn_append_cons_self_of_not_mem absent, ← behind, ← later]
        rfl
      · rw [search, searchFrom_eq_none only nonempty placed member,
          List.splitOn_eq_singleton member]
        rfl

end Searching

/-- A text is cut where the character stands. -/
theorem split_of_matchesOnly {pattern : Pattern} {c : Char} (only : pattern.MatchesOnly c)
    (groupless : pattern.groups = 0) (text : List Char) :
    pattern.split text = (text.splitOn c).map some := by
  have pieces := @skipped_matchesFrom pattern c only false (.start text) rfl
    (2 * text.length + 2) (show text.length < 2 * text.length + 2 by omega)
  have captureless (found : Found) : found.captures pattern = [] := by
    rw [Found.captures, groupless, List.range_zero, List.map_nil]
  rw [split, findAll]
  simp only [captureless, ← List.map_eq_flatMap]
  rw [Cursor.start] at pieces ⊢
  rw [← pieces, List.map_append, List.map_map]
  rfl

/-! ## Characters in patterns -/

theorem accepts_literal (c d : Char) (asciiClasses : Bool) :
    (CharacterTest.mk false [.range c.toNat c.toNat] .exact asciiClasses).accepts d = true ↔
      d = c := by
  have between : c.toNat ≤ d.toNat ∧ d.toNat ≤ c.toNat ↔ d = c := by
    rw [← Char.toNat_inj]
    omega
  simpa [CharacterTest.accepts, CaseRule.variants] using between

section Literal

variable {test : CharacterTest} {c : Char} (accepts : ∀ d, test.accepts d = true ↔ d = c)
  (groups : Nat) (names : List (String × Nat))
include accepts

theorem run_single (cursor : Cursor) (continuation : Continuation) :
    (Node.single test).run cursor continuation =
      if cursor.after.head? = some c then continuation cursor.forward else none := by
  cases stands : cursor.after with
  | nil => simp [Node.run, stands]
  | cons d rest =>
      by_cases same : d = c
      · simp [Node.run, stands, same, (accepts c).mpr rfl]
      · have refused : test.accepts d = false := by simpa [same] using accepts d
        simp [Node.run, stands, same, refused]

theorem matchesOnly_single : MatchesOnly ⟨.single test, groups, names⟩ c := by
  intro nonempty cursor placed
  rw [matchAt, run_single accepts]
  constructor
  · intro stands
    rcases List.head?_eq_some_iff.mp stands with ⟨rest, shape⟩
    simp [Cursor.forward, shape]
  · intro stands
    simp [stands]

/-- A group around a character captures it, and matches what the character alone matches. -/
theorem matchesOnly_group (number : Nat) :
    MatchesOnly ⟨.group (some number) (.single test), groups, names⟩ c := by
  intro nonempty cursor placed
  rw [matchAt, Node.run, run_single accepts]
  constructor
  · intro stands
    rcases List.head?_eq_some_iff.mp stands with ⟨rest, shape⟩
    simp [Cursor.forward, Cursor.capture, shape]
  · intro stands
    simp [stands]

end Literal

end Runbook.Pattern
