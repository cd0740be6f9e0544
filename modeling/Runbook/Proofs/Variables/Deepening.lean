import Runbook.Proofs.Variables.Settling

/-! # Larger limits

Passes that end before a limit is reached end in the same way before a larger one. So a
larger limit changes nothing about an expansion that succeeds or finds a cycle: it can only
let an expansion go on that was too deep.
-/

namespace Runbook.Variables

/-- More passes make a difference only where the passes have run out. -/
theorem settle_of_le {pass : List Char → List Char} {seen : List (List Char)}
    {result : List Char} {further more : Nat} (le : further ≤ more)
    (ended : settle pass seen further result ≠ .unfinished) :
    settle pass seen more result = settle pass seen further result := by
  induction further generalizing more seen result with
  | zero =>
      by_cases done : ¬referenceStart <:+: result ∨ result ∈ seen
      · rw [settle_of_done done, settle_of_done done]
      · rw [not_or, not_not] at done
        exact absurd (settle_zero done.1 done.2) ended
  | succ further induction =>
      rcases Nat.exists_eq_add_one.mpr (Nat.zero_lt_of_lt le) with ⟨more, rfl⟩
      by_cases done : ¬referenceStart <:+: result ∨ result ∈ seen
      · rw [settle_of_done done, settle_of_done done]
      · rw [not_or, not_not] at done
        rw [settle_succ done.1 done.2] at ended ⊢
        rw [settle_succ done.1 done.2]
        split
        · rfl
        · rename_i moves
          rw [if_neg moves] at ended
          split
          · rfl
          · rename_i new
            rw [if_neg new] at ended
            exact induction (Nat.le_of_succ_le_succ le) ended

namespace Limit

variable {limit larger : Limit}

theorem further_le (le : limit.bound ≤ larger.bound) : limit.further ≤ larger.further := by
  rw [further, further]
  omega

end Limit

/-- An expansion that a larger limit changes was too deep. -/
theorem expandVariables_of_le (bindings : Variables) (text : String) {limit larger : Limit}
    (least : 1 ≤ limit.bound) (le : limit.bound ≤ larger.bound) :
    bindings.expandVariables larger text = bindings.expandVariables limit text ∨
      bindings.expandVariables limit text = .error (.tooDeep limit text) := by
  by_cases ended : settle bindings.expandOnce [text.toList] limit.further
      (bindings.expandOnce text.toList) = .unfinished
  · right
    unfold expandVariables
    rw [ended]
    cases limit with
    | incomparable => contradiction
    | passes | fractional | flag => rfl
  · left
    have same := settle_of_le (Limit.further_le le) ended
    unfold expandVariables
    rw [same]
    split
    · rfl
    · rfl
    · contradiction

/-- A limit is reached at its bound, which for a whole number of passes is this number. What
an expansion comes to stays the same when the bound grows, unless it was too deep. -/
theorem expand_of_larger_limit (bindings : Variables) (host : List (String × String))
    (text : String) {limit larger : Limit} (least : 1 ≤ limit.bound)
    (le : limit.bound ≤ larger.bound) :
    (∀ result, bindings.expand host limit text = .ok result →
      bindings.expand host larger text = .ok result) ∧
    (∀ given, bindings.expand host limit text = .error (.cyclic given) →
      bindings.expand host larger text = .error (.cyclic given)) ∧
    (bindings.expand host larger text ≠ bindings.expand host limit text →
      bindings.expand host limit text = .error (.tooDeep limit text)) := by
  have either : bindings.expand host larger text = bindings.expand host limit text ∨
      bindings.expand host limit text = .error (.tooDeep limit text) := by
    rw [expand, expand]
    rcases expandVariables_of_le bindings text least le with same | deep
    · exact .inl (by rw [same])
    · exact .inr (by rw [deep]; rfl)
  have kept {outcome : Except ExpansionError String}
      (ended : bindings.expand host limit text = outcome)
      (other : outcome ≠ .error (.tooDeep limit text)) :
      bindings.expand host larger text = outcome := by
    rcases either with same | deep
    · exact same.trans ended
    · exact absurd (ended.symm.trans deep) other
  refine ⟨fun result ended => ?_, fun given ended => ?_, either.resolve_left⟩
  · exact kept ended (by simp)
  · exact kept ended (by simp)

/-- Variables whose references are followed in three passes. -/
def chainedVariables : Variables :=
  ((empty.set "c" (.scalar "@\x7bHOME\x7d")).set "b" (.scalar "$\x7bc\x7d")).set "a"
    (.scalar "$\x7bb\x7d")

theorem expand_of_larger_limit_chained :
    chainedVariables.expand [("HOME", "/h")] (.passes 2) "$\x7ba\x7d" =
        .error (.tooDeep (.passes 2) "$\x7ba\x7d") ∧
      chainedVariables.expand [("HOME", "/h")] (.passes 3) "$\x7ba\x7d" = .ok "/h" ∧
      1 ≤ (Limit.passes 3).bound ∧ (Limit.passes 3).bound ≤ (Limit.passes 50).bound ∧
      chainedVariables.expand [("HOME", "/h")] (.passes 50) "$\x7ba\x7d" = .ok "/h" := by
  have enough : chainedVariables.expand [("HOME", "/h")] (.passes 3) "$\x7ba\x7d" = .ok "/h" :=
    rfl
  have least : 1 ≤ (Limit.passes 3).bound := by decide
  have le : (Limit.passes 3).bound ≤ (Limit.passes 50).bound := by decide
  exact ⟨rfl, enough, least, le, (expand_of_larger_limit _ _ _ least le).1 _ enough⟩

end Runbook.Variables
