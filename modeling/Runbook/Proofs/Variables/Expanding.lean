import Runbook.Proofs.Variables.Settling
import Runbook.Proofs.Variables.Templates

/-! # Full expansion

If a text and all scalars are templates, replacing every reference by the expansion of
its value is a recursion over the pieces. Passes do it level by level: a pass changes
nothing of what a template expands to, and it shortens every chain of references by at
least one, in whatever order the variables are. An expansion that may take more passes
than the longest chain has references therefore comes to the full expansion.
-/

namespace Runbook.Variables

/-- All names are plain, and all scalars are templates. -/
structure Templated (bindings : Variables) : Prop where
  plain : bindings.PlainlyNamed
  written : ∀ name value, (name, .scalar value) ∈ bindings.entries →
    ∃ template : Template, template.text = value.toList

/-- Every reference to a scalar is replaced by what the value expands to; others stay. -/
inductive ExpandsTo (bindings : Variables) : Template → List Char → Prop
  | nil : ExpandsTo bindings [] []
  | character {c plain rest out} : ExpandsTo bindings rest out →
      ExpandsTo bindings (.character c plain :: rest) (c :: out)
  | kept {name plain rest out} : (∀ value, bindings.get? name ≠ some (.scalar value)) →
      ExpandsTo bindings rest out →
      ExpandsTo bindings (.reference name plain :: rest) (reference name.toList ++ out)
  | replaced {name plain value inner innerOut rest out} :
      bindings.get? name = some (.scalar value) → Template.text inner = value.toList →
      ExpandsTo bindings inner innerOut → ExpandsTo bindings rest out →
      ExpandsTo bindings (.reference name plain :: rest) (innerOut ++ out)

/-- Names of scalars each of which is referred to in the value of the one before, the
first of them in a template. If references are cyclic, there are chains of any length. -/
inductive Chain (bindings : Variables) : Template → List String → Prop
  | nil (template) : Chain bindings template []
  | cons {template name plain value inner rest} : .reference name plain ∈ template →
      bindings.get? name = some (.scalar value) → Template.text inner = value.toList →
      Chain bindings inner rest → Chain bindings template (name :: rest)

variable {bindings : Variables}

/-! ## Expansions -/

namespace ExpandsTo

theorem unique {template : Template} {first second : List Char}
    (toFirst : bindings.ExpandsTo template first) (toSecond : bindings.ExpandsTo template second) :
    first = second := by
  induction toFirst generalizing second with
  | nil => cases toSecond; rfl
  | character _ induction =>
      cases toSecond with
      | character rest => rw [induction rest]
  | kept absent _ induction =>
      cases toSecond with
      | kept _ rest => rw [induction rest]
      | replaced found => exact absurd found (absent _)
  | replaced found written _ _ innerInduction induction =>
      cases toSecond with
      | kept absent => exact absurd found (absent _)
      | replaced otherFound otherWritten inner rest =>
          rw [found] at otherFound
          cases otherFound
          cases Template.text_injective (written.trans otherWritten.symm)
          rw [innerInduction inner, induction rest]

theorem append {first second : Template} {firstOut secondOut : List Char}
    (toFirst : bindings.ExpandsTo first firstOut) (toSecond : bindings.ExpandsTo second secondOut) :
    bindings.ExpandsTo (first ++ second) (firstOut ++ secondOut) := by
  induction toFirst with
  | nil => exact toSecond
  | character _ induction => exact .character induction
  | kept absent _ induction =>
      rw [List.append_assoc]
      exact .kept absent induction
  | replaced found written inner _ _ induction =>
      rw [List.append_assoc]
      exact .replaced found written inner induction

theorem exists_of_pieces {template : Template}
    (pieces : ∀ piece ∈ template, ∃ out, bindings.ExpandsTo [piece] out) :
    ∃ out, bindings.ExpandsTo template out := by
  induction template with
  | nil => exact ⟨[], .nil⟩
  | cons piece rest induction =>
      rcases pieces piece List.mem_cons_self with ⟨front, expands⟩
      rcases induction fun other member => pieces other (List.mem_cons_of_mem piece member) with
        ⟨back, further⟩
      exact ⟨front ++ back, expands.append further⟩

/-- Replacing one of the variables leaves the expansion as it is. -/
theorem replace {template : Template} {out : List Char} {name value : String} {inner : Template}
    (found : bindings.get? name = some (.scalar value)) (written : inner.text = value.toList)
    (expands : bindings.ExpandsTo template out) :
    bindings.ExpandsTo (Template.replace name inner template) out := by
  induction expands with
  | nil => exact .nil
  | character _ induction => exact .character induction
  | @kept other plain _ _ absent _ induction =>
      have different : other ≠ name := by
        rintro rfl
        exact absent value found
      rw [Template.replace_other different]
      exact .kept absent induction
  | @replaced other plain _ otherInner _ _ _ otherFound otherWritten expanded _ _ induction =>
      by_cases same : other = name
      · subst same
        rw [found] at otherFound
        cases otherFound
        cases Template.text_injective (written.trans otherWritten.symm)
        rw [Template.replace_same]
        exact expanded.append induction
      · rw [Template.replace_other same]
        exact .replaced otherFound otherWritten expanded induction

end ExpandsTo

/-! ## Chains of references -/

/-- No chain of references is longer than `depth`. -/
def Shallow (bindings : Variables) (depth : Nat) (template : Template) : Prop :=
  ∀ chain, bindings.Chain template chain → chain.length ≤ depth

namespace Shallow

variable {depth : Nat} {template inner : Template} {name value : String}
  {plain : name.toList.all isPlain = true}

theorem of_pieces (shallow : ∀ piece ∈ template, bindings.Shallow depth [piece]) :
    bindings.Shallow depth template := by
  intro chain linked
  cases linked with
  | nil => exact Nat.zero_le _
  | cons member found written rest =>
      exact shallow _ member _ (.cons List.mem_cons_self found written rest)

theorem piece (shallow : bindings.Shallow depth template) {piece : Piece}
    (member : piece ∈ template) : bindings.Shallow depth [piece] := by
  intro chain linked
  cases linked with
  | nil => exact Nat.zero_le _
  | cons only found written rest =>
      rw [← List.mem_singleton.mp only] at member
      exact shallow _ (.cons member found written rest)

theorem mono {more : Nat} (le : depth ≤ more) (shallow : bindings.Shallow depth template) :
    bindings.Shallow more template :=
  fun chain linked => (shallow chain linked).trans le

theorem descend (shallow : bindings.Shallow (depth + 1) template)
    (member : .reference name plain ∈ template)
    (found : bindings.get? name = some (.scalar value))
    (written : Template.text inner = value.toList) :
    bindings.Shallow depth inner := by
  intro chain linked
  exact Nat.le_of_succ_le_succ (shallow (name :: chain) (.cons member found written linked))

theorem of_values (values : ∀ name plain value inner, .reference name plain ∈ template →
    bindings.get? name = some (.scalar value) → Template.text inner = value.toList →
    bindings.Shallow depth inner) : bindings.Shallow (depth + 1) template := by
  intro chain linked
  cases linked with
  | nil => exact Nat.zero_le _
  | cons member found written rest =>
      exact Nat.succ_le_succ (values _ _ _ _ member found written _ rest)

/-- A piece that refers to no scalar starts no chain. -/
theorem of_unbound {piece : Piece}
    (unbound : ∀ name plain value, piece = .reference name plain →
      bindings.get? name ≠ some (.scalar value)) : bindings.Shallow depth [piece] := by
  intro chain linked
  cases linked with
  | nil => exact Nat.zero_le _
  | cons only found =>
      exact absurd found (unbound _ _ _ (List.mem_singleton.mp only).symm)

theorem unbound (shallow : bindings.Shallow 0 template) (member : .reference name plain ∈ template)
    (written : ∃ inner : Template, inner.text = value.toList) :
    bindings.get? name ≠ some (.scalar value) := by
  rintro found
  rcases written with ⟨inner, written⟩
  exact absurd (shallow [name] (.cons member found written (.nil inner))) (by simp)

end Shallow

/-! ## Passes -/

/-- During a pass, a piece has been taken down to `depth`, or it is one level above and
refers to one of the variables that the pass still goes through. -/
def Descends (bindings : Variables) (depth : Nat) (entries : List (String × Value))
    (piece : Piece) : Prop :=
  bindings.Shallow depth [piece] ∨
    bindings.Shallow (depth + 1) [piece] ∧ ∃ name plain value,
      piece = .reference name plain ∧ (name, .scalar value) ∈ entries

theorem Descends.shallow {depth : Nat} {entries : List (String × Value)} {piece : Piece}
    (descends : bindings.Descends depth entries piece) : bindings.Shallow (depth + 1) [piece] := by
  rcases descends with shallow | ⟨shallow, -⟩
  · exact shallow.mono (Nat.le_succ depth)
  · exact shallow

/-- A variable that a piece does not refer to can be passed over. -/
theorem Descends.skip {depth : Nat} {entry : String × Value} {entries : List (String × Value)}
    {piece : Piece} (descends : bindings.Descends depth (entry :: entries) piece)
    (other : ∀ name plain value, piece = .reference name plain → entry ≠ (name, .scalar value)) :
    bindings.Descends depth entries piece := by
  rcases descends with shallow | ⟨shallow, name, plain, value, same, later⟩
  · exact .inl shallow
  · rcases List.mem_cons.mp later with current | later
    · exact absurd current.symm (other name plain value same)
    · exact .inr ⟨shallow, name, plain, value, same, later⟩

section Passes

variable (templated : bindings.Templated)
include templated

/-- What is left to do of a pass. -/
theorem foldl_descends {depth : Nat} {entries : List (String × Value)}
    (included : entries ⊆ bindings.entries) (template : Template)
    (descends : ∀ piece ∈ template, bindings.Descends depth entries piece) :
    ∃ after : Template, after.text = entries.foldl resolveEntry template.text ∧
      bindings.Shallow depth after ∧
      ∀ out, bindings.ExpandsTo template out → bindings.ExpandsTo after out := by
  induction entries generalizing template with
  | nil =>
      refine ⟨template, rfl, .of_pieces fun piece member => ?_, fun _ expands => expands⟩
      rcases descends piece member with shallow | ⟨-, name, plain, value, -, impossible⟩
      · exact shallow
      · exact absurd impossible List.not_mem_nil
  | cons entry entries induction =>
      have included := List.cons_subset.mp included
      rcases entry with ⟨name, value | elements⟩
      · have found := get?_eq_some_iff.mpr included.1
        rcases templated.written name value included.1 with ⟨inner, written⟩
        have further : ∀ piece ∈ Template.replace name inner template,
            bindings.Descends depth entries piece := by
          intro piece inReplaced
          rcases Template.mem_replace inReplaced with ⟨inInner, plain, inTemplate⟩ | ⟨kept, other⟩
          · have above := (descends _ inTemplate).shallow
            exact .inl ((above.descend List.mem_cons_self found written).piece inInner)
          · refine (descends piece kept).skip ?_
            rintro _ plain _ same ⟨⟩
            exact other plain same
        rcases induction included.2 _ further with ⟨after, ran, shallow, expands⟩
        refine ⟨after, ?_, shallow, fun out expanded => expands out (expanded.replace found written)⟩
        rw [ran, ← Template.resolve_text (templated.plain _ included.1) written, List.foldl_cons,
          resolveEntry]
      · exact induction included.2 template fun piece member =>
          (descends piece member).skip (by simp)

theorem expandOnce_descends {depth : Nat} {template : Template}
    (shallow : bindings.Shallow (depth + 1) template) :
    ∃ after : Template, after.text = bindings.expandOnce template.text ∧
      bindings.Shallow depth after ∧
      ∀ out, bindings.ExpandsTo template out → bindings.ExpandsTo after out := by
  rw [expandOnce_eq_foldl]
  refine foldl_descends templated (List.Subset.refl _) template fun piece member => ?_
  by_cases bound : ∃ name plain value, piece = .reference name plain ∧
      bindings.get? name = some (.scalar value)
  · rcases bound with ⟨name, plain, value, same, found⟩
    exact .inr ⟨shallow.piece member, name, plain, value, same, get?_eq_some_iff.mp found⟩
  · refine .inl (.of_unbound fun name plain value same found => bound ?_)
    exact ⟨name, plain, value, same, found⟩

theorem iterate_descends {depth : Nat} {template : Template}
    (shallow : bindings.Shallow depth template) :
    ∃ after : Template, after.text = bindings.expandOnce^[depth] template.text ∧
      bindings.Shallow 0 after ∧
      ∀ out, bindings.ExpandsTo template out → bindings.ExpandsTo after out := by
  induction depth generalizing template with
  | zero => exact ⟨template, rfl, shallow, fun _ expands => expands⟩
  | succ depth induction =>
      rcases expandOnce_descends templated shallow with ⟨next, passed, lower, expands⟩
      rcases induction lower with ⟨after, ran, lowest, further⟩
      refine ⟨after, ?_, lowest, fun out expanded => further out (expands out expanded)⟩
      rw [ran, passed, Function.iterate_succ_apply]

theorem expandOnce_eq_self_of_shallow {template : Template}
    (shallow : bindings.Shallow 0 template) :
    bindings.expandOnce template.text = template.text := by
  refine bindings.expandOnce_induction (motive := (· = template.text)) rfl ?_
  rintro name value _ member rfl
  rcases templated.written name value member with ⟨inner, written⟩
  rw [Template.resolve_text (templated.plain _ member) written, Template.replace_eq_self]
  intro plain refers
  exact shallow.unbound refers ⟨inner, written⟩ (get?_eq_some_iff.mpr member)

theorem expandsTo_text {template : Template} (shallow : bindings.Shallow 0 template) :
    bindings.ExpandsTo template template.text := by
  induction template with
  | nil => exact .nil
  | cons piece rest induction =>
      have further := induction (.of_pieces fun other member =>
        shallow.piece (List.mem_cons_of_mem piece member))
      cases piece with
      | character c plain => exact .character further
      | reference name plain =>
          refine .kept (fun value found => ?_) further
          have written := templated.written name value (get?_eq_some_iff.mp found)
          exact shallow.unbound List.mem_cons_self written found

theorem exists_expandsTo {depth : Nat} {template : Template}
    (shallow : bindings.Shallow depth template) : ∃ out, bindings.ExpandsTo template out := by
  induction depth generalizing template with
  | zero => exact ⟨template.text, expandsTo_text templated shallow⟩
  | succ depth induction =>
      refine ExpandsTo.exists_of_pieces fun piece member => ?_
      cases piece with
      | character c plain => exact ⟨[c], .character .nil⟩
      | reference name plain =>
          by_cases bound : ∃ value, bindings.get? name = some (.scalar value)
          · rcases bound with ⟨value, found⟩
            rcases templated.written name value (get?_eq_some_iff.mp found) with ⟨inner, written⟩
            rcases induction (shallow.descend member found written) with ⟨out, expands⟩
            exact ⟨out ++ [], .replaced found written expands .nil⟩
          · exact ⟨reference name.toList ++ [], .kept (not_exists.mp bound) .nil⟩

end Passes

/-- An expansion that may take more passes than any chain of references is long comes to
the full expansion of a template, whatever is in the host environment. -/
theorem expand_template (templated : bindings.Templated) (host : List (String × String))
    {depth : Int} {template : Template}
    (short : ∀ chain, bindings.Chain template chain → chain.length < depth) :
    ∃ result, bindings.expand host (.passes depth) (String.ofList template.text) =
        .ok (String.ofList result) ∧
      ∀ out, bindings.ExpandsTo template out ↔ out = result := by
  have positive : 0 < depth := short [] (.nil template)
  have shallow : bindings.Shallow (depth.toNat - 1) template := by
    intro chain linked
    have := short chain linked
    omega
  rcases iterate_descends templated shallow with ⟨after, ran, lowest, expands⟩
  rcases exists_expandsTo templated shallow with ⟨out, expanded⟩
  have reached : out = after.text := (expands out expanded).unique (expandsTo_text templated lowest)
  subst reached
  refine ⟨after.text, ?_, fun out => ⟨fun other => other.unique expanded, fun same => same ▸ expanded⟩⟩
  have fixed := expandOnce_eq_self_of_shallow templated lowest
  rw [ran, ← String.toList_ofList (l := template.text)] at fixed
  rcases expandVariables_of_fixed fixed depth with settled | ⟨late, -⟩
  · rw [String.toList_ofList, ← ran] at settled
    simp only [expand, settled, Except.map, Template.expandHost_text]
  · omega

/-- Variables that a pass takes down by one level only: each is referred to in the value of
one that comes behind it. -/
def layeredVariables : Variables :=
  ((empty.set "b" (.scalar "<${xs}>")).set "a" (.scalar "${b}${b}")).set "xs" (.array ["1"])

theorem templated_layeredVariables : layeredVariables.Templated where
  plain := by decide
  written name value member := by
    have entries : layeredVariables.entries =
        [("b", .scalar "<${xs}>"), ("a", .scalar "${b}${b}"), ("xs", .array ["1"])] := rfl
    simp only [entries, List.mem_cons, Prod.mk.injEq, Value.scalar.injEq, reduceCtorEq, and_false,
      List.not_mem_nil, or_false] at member
    rcases member with ⟨-, rfl⟩ | ⟨-, rfl⟩
    · exact ⟨[.character '<' rfl, .reference "xs" (by decide), .character '>' rfl], rfl⟩
    · exact ⟨[.reference "b" (by decide), .reference "b" (by decide)], rfl⟩

def layeredTemplate : Template :=
  [.reference "a" (by decide), .character '-' rfl, .reference "missing" (by decide)]

theorem shallow_layeredTemplate : layeredVariables.Shallow 2 layeredTemplate := by
  have foundA : layeredVariables.get? "a" = some (.scalar "${b}${b}") := by decide
  have foundB : layeredVariables.get? "b" = some (.scalar "<${xs}>") := by decide
  have foundXs : layeredVariables.get? "xs" = some (.array ["1"]) := by decide
  have writtenA : Template.text [.reference "b" (by decide), .reference "b" (by decide)] =
      "${b}${b}".toList := rfl
  have writtenB : Template.text [.character '<' rfl, .reference "xs" (by decide),
      .character '>' rfl] = "<${xs}>".toList := rfl
  refine .of_values fun name plain value inner member found written => ?_
  simp only [layeredTemplate, List.mem_cons, Piece.reference.injEq, reduceCtorEq,
    List.not_mem_nil, or_false, false_or] at member
  rcases member with rfl | rfl
  · cases foundA.symm.trans found
    cases Template.text_injective (written.trans writtenA.symm)
    refine .of_values fun name plain value inner member found written => ?_
    simp only [List.mem_cons, Piece.reference.injEq, List.not_mem_nil, or_false, or_self] at member
    subst member
    cases foundB.symm.trans found
    cases Template.text_injective (written.trans writtenB.symm)
    refine .of_pieces fun piece member => .of_unbound ?_
    rintro name plain value rfl
    simp only [List.mem_cons, Piece.reference.injEq, reduceCtorEq, List.not_mem_nil, or_false,
      false_or] at member
    subst member
    simp [foundXs]
  · contradiction

theorem expand_template_layered :
    (∀ chain, layeredVariables.Chain layeredTemplate chain → (chain.length : Int) < 3) ∧
    ∃ result, layeredVariables.expand [("HOME", "/root")] (.passes 3)
        (String.ofList layeredTemplate.text) = .ok (String.ofList result) ∧
      ∀ out, layeredVariables.ExpandsTo layeredTemplate out ↔ out = result := by
  have short : ∀ chain, layeredVariables.Chain layeredTemplate chain →
      (chain.length : Int) < 3 := by
    intro chain linked
    have := shallow_layeredTemplate chain linked
    omega
  exact ⟨short, expand_template templated_layeredVariables _ short⟩

end Runbook.Variables
