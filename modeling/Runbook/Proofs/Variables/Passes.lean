import Runbook.Proofs.Text.Substituting
import Runbook.Variables

/-! # References and passes

A pass replaces the references to one scalar after the other. What a text has and each
of these replacements keeps, it still has after the pass. References to plain names,
which are free of the characters that mark references, do not overlap.
-/

namespace Runbook.Variables

/-! ## Passes -/

theorem reference_ne_nil (name : List Char) : reference name ≠ [] := by
  simp [reference, referenceStart]

theorem reference_starts (name : List Char) :
    referenceStart <:+: reference name :=
  ((List.prefix_append referenceStart _).trans (List.prefix_append _ _)).isInfix

/-- Replace the references to one variable by a text. -/
def resolve (name value : String) (text : List Char) : List Char :=
  Text.substitute (reference name.toList) value.toList text

/-- What a pass does for one of the variables. -/
def resolveEntry (text : List Char) : String × Value → List Char
  | (name, .scalar value) => resolve name value text
  | (_, .array _) => text

theorem expandOnce_eq_foldl (bindings : Variables) (text : List Char) :
    bindings.expandOnce text = bindings.entries.foldl resolveEntry text := by
  refine congrArg (List.foldl · text bindings.entries) (funext fun text => funext fun entry => ?_)
  rcases entry with ⟨name, value | elements⟩ <;> rfl

theorem expandOnce_induction {motive : List Char → Prop} (bindings : Variables)
    {text : List Char} (start : motive text)
    (step : ∀ name value text, (name, .scalar value) ∈ bindings.entries → motive text →
      motive (resolve name value text)) : motive (bindings.expandOnce text) := by
  rw [expandOnce_eq_foldl]
  refine List.foldlRecOn bindings.entries _ start fun text holds entry member => ?_
  rcases entry with ⟨name, value | elements⟩
  · exact step name value text member holds
  · exact holds

theorem resolve_eq_self {name : String} {text : List Char} (value : String)
    (absent : ¬reference name.toList <:+: text) : resolve name value text = text :=
  Text.substitute_eq_self _ (reference_ne_nil _) absent

theorem expandOnce_eq_self (bindings : Variables) {text : List Char}
    (absent : ∀ name value, (name, .scalar value) ∈ bindings.entries →
      ¬reference name.toList <:+: text) : bindings.expandOnce text = text := by
  refine bindings.expandOnce_induction (motive := (· = text)) rfl ?_
  rintro name value _ member rfl
  exact resolve_eq_self value (absent name value member)

/-- A text in which no reference starts is left as it is. -/
theorem expandOnce_idle (bindings : Variables) (text : List Char)
    (plain : ¬referenceStart <:+: text) : bindings.expandOnce text = text :=
  bindings.expandOnce_eq_self fun name _ _ refers =>
    plain ((reference_starts name.toList).trans refers)

/-! ## The host environment -/

theorem hostReference_ne_nil (name : List Char) : hostReference name ≠ [] := by
  simp [hostReference]

theorem expandHost_of_absent {host : List (String × String)} {text : List Char}
    (absent : ∀ entry ∈ host, ¬hostReference entry.1.toList <:+: text) :
    expandHost host text = text := by
  refine List.foldlRecOn (motive := (· = text)) host _ rfl ?_
  rintro _ rfl entry member
  exact Text.substitute_eq_self _ (hostReference_ne_nil _) (absent entry member)

/-! ## Plain names -/

/-- Whether a character is none of those that mark references. -/
def isPlain (c : Char) : Bool := c != '$' && c != '\x7b' && c != '\x7d'

/-- The names are free of the characters that mark references. -/
def PlainlyNamed (bindings : Variables) : Prop :=
  ∀ entry ∈ bindings.entries, entry.1.toList.all isPlain = true

instance (bindings : Variables) : Decidable bindings.PlainlyNamed :=
  inferInstanceAs (Decidable (∀ entry ∈ bindings.entries, entry.1.toList.all isPlain = true))

theorem not_mem_of_plain {name : List Char} (plain : name.all isPlain = true) {c : Char}
    (marks : isPlain c = false) : c ∉ name := by
  intro member
  have := List.all_eq_true.mp plain c member
  simp_all

/-- What stands before the first occurrence of a character is found again. -/
theorem append_cons_inj {c : Char} {first second firstRest secondRest : List Char}
    (firstFree : c ∉ first) (secondFree : c ∉ second)
    (same : first ++ c :: firstRest = second ++ c :: secondRest) :
    first = second ∧ firstRest = secondRest := by
  induction first generalizing second with
  | nil =>
      cases second with
      | nil => exact ⟨rfl, (List.cons.inj same).2⟩
      | cons d second =>
          rw [(List.cons.inj same).1] at secondFree
          exact absurd List.mem_cons_self secondFree
  | cons d first induction =>
      cases second with
      | nil =>
          rw [(List.cons.inj same).1] at firstFree
          exact absurd List.mem_cons_self firstFree
      | cons e second =>
          rcases List.cons.inj same with ⟨rfl, behind⟩
          rcases induction (List.not_mem_of_not_mem_cons firstFree)
            (List.not_mem_of_not_mem_cons secondFree) behind with ⟨rfl, rest⟩
          exact ⟨rfl, rest⟩

theorem reference_append_inj {first second firstRest secondRest : List Char}
    (firstPlain : first.all isPlain = true) (secondPlain : second.all isPlain = true)
    (same : reference first ++ firstRest = reference second ++ secondRest) :
    first = second ∧ firstRest = secondRest := by
  simp only [reference, referenceStart, List.cons_append, List.nil_append, List.append_assoc,
    List.cons.injEq, true_and] at same
  exact append_cons_inj (not_mem_of_plain firstPlain (by decide))
    (not_mem_of_plain secondPlain (by decide)) same

/-- A reference that starts behind the start of a reference starts behind its end. -/
theorem disjoint_of_reference_append {first second between firstRest secondRest : List Char}
    (plain : first.all isPlain = true) (behind : between ≠ [])
    (same : reference first ++ firstRest = between ++ (reference second ++ secondRest)) :
    ∃ gap, between = reference first ++ gap ∧ firstRest = gap ++ (reference second ++ secondRest) := by
  rcases List.append_eq_append_iff.mp same with ⟨gap, shape, rest⟩ | ⟨overlap, shape, rest⟩
  · exact ⟨gap, shape, rest⟩
  · cases overlap with
    | nil =>
        rw [List.append_nil] at shape
        exact ⟨[], by rw [shape, List.append_nil], rest.symm⟩
    | cons c overlap =>
        rcases List.exists_cons_of_ne_nil behind with ⟨d, tail, rfl⟩
        have dollar : '$' = c := (List.cons.inj rest).1
        have inside : '$' ∈ '\x7b' :: (first ++ ['\x7d']) := by
          rw [show '\x7b' :: (first ++ ['\x7d']) = tail ++ c :: overlap from (List.cons.inj shape).2,
            dollar]
          exact List.mem_append_cons_self
        simp [not_mem_of_plain plain (by decide : isPlain '$' = false)] at inside

theorem get?_eq_some_iff {bindings : Variables} {name : String} {value : Value} :
    bindings.get? name = some value ↔ (name, value) ∈ bindings.entries :=
  Association.lookup_eq_some_iff_mem bindings.distinct

/-- A name has one value. -/
theorem value_unique (bindings : Variables) {name : String} {first second : Value}
    (firstMember : (name, first) ∈ bindings.entries)
    (secondMember : (name, second) ∈ bindings.entries) : first = second := by
  have same := (get?_eq_some_iff.mpr firstMember).symm.trans (get?_eq_some_iff.mpr secondMember)
  exact Option.some.inj same

end Runbook.Variables
