import Runbook.Proofs.Variables.Settling

/-! # Expansion in any order

Replacing one reference by its value is a step of a rewriting system on texts. If names
are plain, references do not overlap, so two different steps from one text can each be
followed by the other. Hence all ways to a text without references take equally many
steps, and no other way is longer or leads elsewhere. A pass is a row of such steps in
an order that depends on the order of the variables, and what expansions come to does
not.
-/

namespace Runbook.Variables

/-! ## Steps -/

/-- Replace one reference to a scalar by its value. -/
def Rewrites (bindings : Variables) (text next : List Char) : Prop :=
  ∃ name value before after, (name, .scalar value) ∈ bindings.entries ∧
    text = before ++ (reference name.toList ++ after) ∧ next = before ++ (value.toList ++ after)

/-- Replace as many references in turn as `count` says. -/
inductive RewritesIn (bindings : Variables) : (count : Nat) → List Char → List Char → Prop
  | done (text) : RewritesIn bindings 0 text text
  | step {count text next final} : bindings.Rewrites text next →
      RewritesIn bindings count next final → RewritesIn bindings (count + 1) text final

/-- There is no reference to a scalar left. -/
def Irreducible (bindings : Variables) (text : List Char) : Prop :=
  ∀ name value, (name, .scalar value) ∈ bindings.entries → ¬reference name.toList <:+: text

variable {bindings : Variables}

theorem Irreducible.not_rewrites {text next : List Char} (irreducible : bindings.Irreducible text) :
    ¬bindings.Rewrites text next := by
  rintro ⟨name, value, before, after, member, rfl, -⟩
  exact irreducible name value member
    ((List.prefix_append _ _).isInfix.trans (List.suffix_append before _).isInfix)

theorem Rewrites.append_left {text next : List Char} (rewrites : bindings.Rewrites text next)
    (front : List Char) : bindings.Rewrites (front ++ text) (front ++ next) := by
  rcases rewrites with ⟨name, value, before, after, member, rfl, rfl⟩
  exact ⟨name, value, front ++ before, after, member, by simp, by simp⟩

namespace RewritesIn

theorem trans {first second : Nat} {text middle final : List Char}
    (start : bindings.RewritesIn first text middle)
    (rest : bindings.RewritesIn second middle final) :
    bindings.RewritesIn (first + second) text final := by
  induction start with
  | done => rwa [Nat.zero_add]
  | step rewrites _ induction =>
      rw [Nat.add_right_comm]
      exact .step rewrites (induction rest)

theorem eq_of_zero {text final : List Char} (steps : bindings.RewritesIn 0 text final) :
    text = final := by
  cases steps
  rfl

theorem append_left {count : Nat} {text final : List Char}
    (steps : bindings.RewritesIn count text final) (front : List Char) :
    bindings.RewritesIn count (front ++ text) (front ++ final) := by
  induction steps with
  | done => exact .done _
  | step rewrites _ induction => exact .step (rewrites.append_left front) induction

end RewritesIn

/-! ## Different steps -/

theorem Rewrites.join {name value other otherValue : String} {between after otherAfter : List Char}
    (plain : bindings.PlainlyNamed) (member : (name, .scalar value) ∈ bindings.entries)
    (otherMember : (other, .scalar otherValue) ∈ bindings.entries)
    (same : reference name.toList ++ after = between ++ (reference other.toList ++ otherAfter)) :
    value.toList ++ after = between ++ (otherValue.toList ++ otherAfter) ∨
      ∃ final, bindings.Rewrites (value.toList ++ after) final ∧
        bindings.Rewrites (between ++ (otherValue.toList ++ otherAfter)) final := by
  by_cases behind : between = []
  · subst behind
    rcases reference_append_inj (plain _ member) (plain _ otherMember) same with ⟨names, rfl⟩
    have names : name = other := String.toList_inj.mp names
    subst names
    cases bindings.value_unique member otherMember
    exact .inl rfl
  · rcases disjoint_of_reference_append (plain _ member) behind same with ⟨gap, rfl, rfl⟩
    refine .inr ⟨value.toList ++ (gap ++ (otherValue.toList ++ otherAfter)), ?_, ?_⟩
    · exact ⟨other, otherValue, value.toList ++ gap, otherAfter, otherMember, by simp, by simp⟩
    · exact ⟨name, value, [], gap ++ (otherValue.toList ++ otherAfter), member, by simp, by simp⟩

theorem Rewrites.diamond {text first second : List Char} (plain : bindings.PlainlyNamed)
    (toFirst : bindings.Rewrites text first) (toSecond : bindings.Rewrites text second) :
    first = second ∨ ∃ final, bindings.Rewrites first final ∧ bindings.Rewrites second final := by
  rcases toFirst with ⟨name, value, before, after, member, rfl, rfl⟩
  rcases toSecond with ⟨other, otherValue, otherBefore, otherAfter, otherMember, same, rfl⟩
  rcases List.append_eq_append_iff.mp same with ⟨between, rfl, overlap⟩ | ⟨between, rfl, overlap⟩
  · rcases Rewrites.join plain member otherMember overlap with equal | ⟨final, left, right⟩
    · exact .inl (by rw [equal, List.append_assoc])
    · refine .inr ⟨before ++ final, left.append_left before, ?_⟩
      rw [List.append_assoc]
      exact right.append_left before
  · rcases Rewrites.join plain otherMember member overlap with equal | ⟨final, right, left⟩
    · exact .inl (by rw [equal, List.append_assoc])
    · refine .inr ⟨otherBefore ++ final, ?_, right.append_left otherBefore⟩
      rw [List.append_assoc]
      exact left.append_left otherBefore

namespace RewritesIn

variable {total count : Nat} {text next final reached : List Char}

/-- Any step brings a text one step nearer to where no reference is left. -/
theorem nearer (plain : bindings.PlainlyNamed) (irreducible : bindings.Irreducible final)
    (steps : bindings.RewritesIn total text final) (rewrites : bindings.Rewrites text next) :
    ∃ rest, total = rest + 1 ∧ bindings.RewritesIn rest next final := by
  induction steps generalizing next with
  | done => exact absurd rewrites irreducible.not_rewrites
  | @step rest text middle final first steps induction =>
      rcases Rewrites.diamond plain first rewrites with rfl | ⟨meeting, fromMiddle, fromNext⟩
      · exact ⟨rest, rfl, steps⟩
      · rcases induction irreducible fromMiddle with ⟨more, rfl, onward⟩
        exact ⟨more + 1, rfl, .step fromNext onward⟩

/-- Wherever steps have led to, the way to where no reference is left goes on from there,
and both together are as long as any other way. -/
theorem remaining (plain : bindings.PlainlyNamed) (irreducible : bindings.Irreducible final)
    (steps : bindings.RewritesIn total text final)
    (taken : bindings.RewritesIn count text reached) :
    ∃ rest, total = count + rest ∧ bindings.RewritesIn rest reached final := by
  induction taken generalizing total with
  | done => exact ⟨total, (Nat.zero_add _).symm, steps⟩
  | step rewrites _ induction =>
      rcases nearer plain irreducible steps rewrites with ⟨rest, rfl, onward⟩
      rcases induction onward with ⟨more, rfl, last⟩
      exact ⟨more, by omega, last⟩

theorem eq_of_irreducible (irreducible : bindings.Irreducible text)
    (steps : bindings.RewritesIn count text final) : text = final := by
  cases steps with
  | done => rfl
  | step rewrites _ => exact absurd rewrites irreducible.not_rewrites

end RewritesIn

/-! ## Passes -/

theorem rewritesIn_resolve {name value : String} (member : (name, .scalar value) ∈ bindings.entries)
    (text : List Char) :
    ∃ count, bindings.RewritesIn count text (resolve name value text) ∧
      (reference name.toList <:+: text → 0 < count) := by
  have nonempty := reference_ne_nil name.toList
  induction text using Text.occurrence_induction nonempty with
  | nil =>
      rw [resolve, Text.substitute_nil _ nonempty]
      exact ⟨0, .done [], fun occurs => absurd (List.infix_nil.mp occurs) nonempty⟩
  | occurs rest induction =>
      rcases induction with ⟨count, steps, -⟩
      rw [resolve, Text.substitute_append _ nonempty]
      refine ⟨count + 1, .step ?_ (steps.append_left value.toList), fun _ => Nat.succ_pos count⟩
      exact ⟨name, value, [], rest, member, rfl, rfl⟩
  | passes c rest differs induction =>
      rcases induction with ⟨count, steps, moves⟩
      rw [resolve, Text.substitute_cons _ nonempty differs]
      refine ⟨count, steps.append_left [c], fun occurs => moves ?_⟩
      exact (List.infix_cons_iff.mp occurs).resolve_left differs

theorem rewritesIn_foldl {entries : List (String × Value)} (included : entries ⊆ bindings.entries)
    (text : List Char) :
    ∃ count, bindings.RewritesIn count text (entries.foldl resolveEntry text) ∧
      ∀ name value, (name, .scalar value) ∈ entries → reference name.toList <:+: text →
        0 < count := by
  induction entries generalizing text with
  | nil => exact ⟨0, .done text, by simp⟩
  | cons entry entries induction =>
      have included := List.cons_subset.mp included
      rcases entry with ⟨name, value | elements⟩
      · rcases rewritesIn_resolve included.1 text with ⟨first, steps, moves⟩
        rcases induction included.2 (resolve name value text) with ⟨second, onward, later⟩
        refine ⟨first + second, steps.trans onward, fun other otherValue member occurs => ?_⟩
        rcases List.mem_cons.mp member with same | member
        · cases same
          exact Nat.add_pos_left (moves occurs) second
        · -- What the first variable leaves as it was still has the reference in it.
          rcases Nat.eq_zero_or_pos first with rfl | positive
          · rw [steps.eq_of_zero] at occurs
            exact Nat.add_pos_right 0 (later other otherValue member occurs)
          · exact Nat.add_pos_left positive second
      · rcases induction included.2 text with ⟨count, steps, moves⟩
        refine ⟨count, steps, fun name value member occurs => ?_⟩
        rcases List.mem_cons.mp member with same | member
        · cases same
        · exact moves name value member occurs

theorem rewritesIn_expandOnce (bindings : Variables) (text : List Char) :
    ∃ count, bindings.RewritesIn count text (bindings.expandOnce text) ∧
      (¬bindings.Irreducible text → 0 < count) := by
  rcases rewritesIn_foldl (List.Subset.refl bindings.entries) text with ⟨count, steps, moves⟩
  rw [expandOnce_eq_foldl]
  refine ⟨count, steps, fun reducible => ?_⟩
  by_contra still
  exact reducible fun name value member occurs => still (moves name value member occurs)

theorem rewritesIn_iterate (bindings : Variables) (text : List Char) (passes : Nat) :
    ∃ count, bindings.RewritesIn count text (bindings.expandOnce^[passes] text) ∧
      ((∃ earlier < passes, bindings.Irreducible (bindings.expandOnce^[earlier] text)) ∨
        passes ≤ count) := by
  induction passes with
  | zero => exact ⟨0, .done text, .inr le_rfl⟩
  | succ passes induction =>
      rcases induction with ⟨count, steps, ended⟩
      rcases bindings.rewritesIn_expandOnce (bindings.expandOnce^[passes] text) with
        ⟨more, onward, moves⟩
      rw [Function.iterate_succ_apply']
      refine ⟨count + more, steps.trans onward, ?_⟩
      rcases ended with ⟨earlier, before, irreducible⟩ | enough
      · exact .inl ⟨earlier, by omega, irreducible⟩
      · by_cases irreducible : bindings.Irreducible (bindings.expandOnce^[passes] text)
        · exact .inl ⟨passes, by omega, irreducible⟩
        · have := moves irreducible
          exact .inr (by omega)

/-- If any steps lead to where no reference is left, so do passes. -/
theorem exists_iterate_eq {total : Nat} {text final : List Char} (plain : bindings.PlainlyNamed)
    (irreducible : bindings.Irreducible final) (steps : bindings.RewritesIn total text final) :
    ∃ passes, bindings.expandOnce^[passes] text = final := by
  have arrives : ∀ {passes}, bindings.Irreducible (bindings.expandOnce^[passes] text) →
      bindings.expandOnce^[passes] text = final := by
    intro passes ended
    rcases bindings.rewritesIn_iterate text passes with ⟨count, taken, -⟩
    rcases steps.remaining plain irreducible taken with ⟨rest, -, onward⟩
    exact onward.eq_of_irreducible ended
  rcases bindings.rewritesIn_iterate text (total + 1) with ⟨count, taken, ended⟩
  rcases ended with ⟨earlier, -, ended⟩ | many
  · exact ⟨earlier, arrives ended⟩
  · rcases steps.remaining plain irreducible taken with ⟨rest, length, -⟩
    omega

/-! ## Variables in another order -/

theorem RewritesIn.perm {first second : Variables} (same : first.entries.Perm second.entries)
    {count : Nat} {text final : List Char} (steps : first.RewritesIn count text final) :
    second.RewritesIn count text final := by
  induction steps with
  | done => exact .done _
  | step rewrites _ induction =>
      rcases rewrites with ⟨name, value, before, after, member, shape⟩
      exact .step ⟨name, value, before, after, same.subset member, shape⟩ induction

theorem Irreducible.perm {first second : Variables} (same : first.entries.Perm second.entries)
    {text : List Char} (irreducible : first.Irreducible text) : second.Irreducible text :=
  fun name value member => irreducible name value (same.symm.subset member)

/-- If an expansion has left no reference to a scalar, then with the same variables in
another order it comes to the same text unless it is cut off, and it is not cut off if it
may take enough passes. -/
theorem expand_perm {first second : Variables} (same : first.entries.Perm second.entries)
    (plain : first.PlainlyNamed) (host : List (String × String)) {depth : Int} {text : String}
    {reached : List Char} (ended : first.expandVariables (.passes depth) text = .ok reached)
    (irreducible : first.Irreducible reached) :
    (∀ limit : Int,
      second.expand host (.passes limit) text = first.expand host (.passes depth) text ∨
        second.expand host (.passes limit) text = .error (.tooDeep (.passes limit) text)) ∧
    ∃ enough : Int, ∀ limit ≥ enough,
      first.expand host (.passes limit) text = first.expand host (.passes depth) text ∧
        second.expand host (.passes limit) text = first.expand host (.passes depth) text := by
  rcases (exists_iterate_of_ok ended).2 with ⟨passes, arrived⟩
  rcases first.rewritesIn_iterate text.toList passes with ⟨total, steps, -⟩
  rw [arrived] at steps
  have otherIrreducible := irreducible.perm same
  rcases exists_iterate_eq (fun entry member => plain entry (same.symm.subset member))
    otherIrreducible (steps.perm same) with ⟨otherPasses, otherArrived⟩
  have fixed : first.expandOnce (first.expandOnce^[passes] text.toList) =
      first.expandOnce^[passes] text.toList := by
    rw [arrived]
    exact first.expandOnce_eq_self irreducible
  have otherFixed : second.expandOnce (second.expandOnce^[otherPasses] text.toList) =
      second.expandOnce^[otherPasses] text.toList := by
    rw [otherArrived]
    exact second.expandOnce_eq_self otherIrreducible
  simp only [expand, ended]
  refine ⟨fun limit => ?_, max passes otherPasses + 1, fun limit enough => ⟨?_, ?_⟩⟩
  · rcases expandVariables_of_fixed otherFixed limit with settled | ⟨-, settled⟩
    · exact .inl (by rw [settled, otherArrived])
    · exact .inr (by rw [settled]; rfl)
  · rcases expandVariables_of_fixed fixed limit with settled | ⟨early, -⟩
    · rw [settled, arrived]
    · omega
  · rcases expandVariables_of_fixed otherFixed limit with settled | ⟨early, -⟩
    · rw [settled, otherArrived]
    · omega

/-- Variables one of which holds the start of a reference. -/
def joiningVariables : Variables :=
  ((empty.set "start" (.scalar "$\x7b")).set "x" (.scalar "a${y}")).set "y" (.scalar "b")

def joiningVariablesReversed : Variables :=
  ((empty.set "y" (.scalar "b")).set "x" (.scalar "a${y}")).set "start" (.scalar "$\x7b")

theorem expand_perm_joined :
    joiningVariables.expandVariables (.passes 2) "${start}x\x7d" = .ok "ab".toList ∧
    (∀ limit : Int,
      joiningVariablesReversed.expand [] (.passes limit) "${start}x\x7d" =
          joiningVariables.expand [] (.passes 2) "${start}x\x7d" ∨
        joiningVariablesReversed.expand [] (.passes limit) "${start}x\x7d" =
          .error (.tooDeep (.passes limit) "${start}x\x7d")) ∧
    ∃ enough : Int, ∀ limit ≥ enough,
      joiningVariables.expand [] (.passes limit) "${start}x\x7d" =
          joiningVariables.expand [] (.passes 2) "${start}x\x7d" ∧
        joiningVariablesReversed.expand [] (.passes limit) "${start}x\x7d" =
          joiningVariables.expand [] (.passes 2) "${start}x\x7d" := by
  have ended : joiningVariables.expandVariables (.passes 2) "${start}x\x7d" = .ok "ab".toList := by
    cbv
  refine ⟨ended, expand_perm (by decide) (by decide) [] ended ?_⟩
  intro name value member occurs
  have refers : '$' ∈ "ab".toList := occurs.subset (by simp [reference, referenceStart])
  exact absurd refers (by decide)

end Runbook.Variables
