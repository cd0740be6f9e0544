import Runbook.Proofs.Text.Marks
import Runbook.Proofs.Variables.Settling
import Runbook.Proofs.Variables.Templates

/-! # Texts with at most one reference

A text in which no reference starts is expanded to itself, whatever variables there are.
If a text has one reference and no other mark of a reference, the value of its variable is
put in its place. No other variable can interfere, whatever its name is: a reference to it
would have to start and to end where this one does.
-/

namespace Runbook.Variables

/-! ## References to the host environment -/

def hostReferenceStart : List Char := ['@', '\x7b']

theorem hostReference_starts (name : List Char) : hostReferenceStart <:+: hostReference name :=
  ((List.prefix_append hostReferenceStart _).trans (List.prefix_append _ _)).isInfix

theorem expandHost_eq_self (host : List (String × String)) {text : List Char}
    (plain : ¬hostReferenceStart <:+: text) : expandHost host text = text :=
  expandHost_of_absent fun entry _ refers =>
    plain ((hostReference_starts entry.1.toList).trans refers)

/-! ## No reference -/

variable {bindings : Variables} {host : List (String × String)} {limit : Limit}

theorem expand_eq_of_settled {text : String} {result : List Char}
    (settled : settle bindings.expandOnce [text.toList] limit.further
      (bindings.expandOnce text.toList) = .stable result)
    (plain : ¬hostReferenceStart <:+: result) :
    bindings.expand host limit text = .ok (String.ofList result) := by
  unfold expand expandVariables
  rw [settled]
  dsimp only
  rw [Except.map, expandHost_eq_self host plain]

theorem expand_eq_self {text : String} (plain : ¬referenceStart <:+: text.toList)
    (plainHost : ¬hostReferenceStart <:+: text.toList) :
    bindings.expand host limit text = .ok text := by
  have settled : settle bindings.expandOnce [text.toList] limit.further
      (bindings.expandOnce text.toList) = .stable text.toList := by
    rw [expandOnce_idle bindings _ plain]
    exact settle_of_done (.inl plain)
  rw [expand_eq_of_settled settled plainHost, String.ofList_toList]

/-! ## One reference -/

/-- A text can occur only where its first character stands. -/
theorem prefix_of_infix_append_cons {c : Char} {part before rest : List Char}
    (starts : part.head? = some c) (free : c ∉ before) (freeBehind : c ∉ rest)
    (found : part <:+: before ++ c :: rest) : part <+: c :: rest := by
  induction before with
  | nil =>
      rcases List.infix_cons_iff.mp found with here | behind
      · exact here
      · exact absurd (behind.subset (List.mem_of_head? starts)) freeBehind
  | cons d before induction =>
      rcases List.infix_cons_iff.mp found with here | behind
      · rcases here with ⟨_, shape⟩
        have same : d = c := by
          rw [← List.head?_append_of_ne_nil _ (by rintro rfl; contradiction), shape] at starts
          exact Option.some.inj starts
        exact absurd (same ▸ List.mem_cons_self) free
      · exact induction (List.not_mem_of_not_mem_cons free) behind

/-- A reference is the same as the only one in a text if it occurs there. -/
theorem reference_unique {name other before after : List Char}
    (dollarFree : '$' ∉ before ++ name ++ after) (braceFree : '\x7d' ∉ name ++ after)
    (refers : reference other <:+: before ++ reference name ++ after) : other = name := by
  have shape : before ++ reference name ++ after =
      before ++ '$' :: '\x7b' :: (name ++ '\x7d' :: after) := by
    simp [reference, referenceStart]
  simp only [List.mem_append, not_or] at dollarFree braceFree
  rw [shape] at refers
  rcases prefix_of_infix_append_cons rfl dollarFree.1.1 (by simp [dollarFree]) refers with
    ⟨rest, same⟩
  have same : other ++ '\x7d' :: rest = name ++ '\x7d' :: after := by
    simpa [reference, referenceStart] using same
  rcases List.append_eq_append_iff.mp same with ⟨gap, parts, behind⟩ | ⟨gap, parts, behind⟩
  · cases gap with
    | nil => rw [parts, List.append_nil]
    | cons c gap =>
        rcases List.cons.inj behind with ⟨rfl, _⟩
        exact absurd (parts ▸ List.mem_append_cons_self) braceFree.1
  · cases gap with
    | nil => rw [parts, List.append_nil]
    | cons c gap =>
        have inside := (List.cons.inj behind).2
        exact absurd (inside ▸ List.mem_append_cons_self) braceFree.2

theorem resolve_reference (name value : String) {before after : List Char}
    (free : '$' ∉ before) (freeBehind : '$' ∉ after) :
    resolve name value (before ++ reference name.toList ++ after) =
      before ++ value.toList ++ after := by
  have absent : ¬reference name.toList <:+: after := fun refers =>
    freeBehind (refers.subset (by simp [reference, referenceStart]))
  rw [resolve, List.append_assoc, Template.substitute_reference_append _ _ free,
    Text.substitute_append _ (reference_ne_nil _),
    Text.substitute_eq_self _ (reference_ne_nil _) absent, List.append_assoc]

/-- Entries that are not referred to are passed over. -/
theorem foldl_resolveEntry_eq_self {entries : List (String × Value)} {text : List Char}
    (absent : ∀ entry ∈ entries, ¬reference entry.1.toList <:+: text) :
    entries.foldl resolveEntry text = text := by
  induction entries with
  | nil => rfl
  | cons entry entries induction =>
      have kept : resolveEntry text entry = text := by
        rcases entry with ⟨name, value | elements⟩
        · have free : ¬reference name.toList <:+: text :=
            absent (name, .scalar value) List.mem_cons_self
          rw [resolveEntry, resolve_eq_self value free]
        · rfl
      rw [List.foldl_cons, kept]
      exact induction fun other member => absent other (List.mem_cons_of_mem entry member)

theorem expandOnce_reference {name value : String} {before after : List Char}
    (bound : bindings.get? name = some (.scalar value))
    (dollarFree : '$' ∉ before ++ name.toList ++ after) (braceFree : '\x7d' ∉ name.toList ++ after)
    (plain : ¬referenceStart <:+: before ++ value.toList ++ after) :
    bindings.expandOnce (before ++ reference name.toList ++ after) =
      before ++ value.toList ++ after := by
  rcases List.append_of_mem (get?_eq_some_iff.mp bound) with ⟨earlier, later, entries⟩
  have others : ∀ entry ∈ earlier, entry.1 ≠ name := by
    intro entry member
    have distinct := bindings.distinct
    rw [entries, List.map_append, List.map_cons, List.nodup_append] at distinct
    exact distinct.2.2 entry.1 (List.mem_map_of_mem member) name List.mem_cons_self
  have kept : earlier.foldl resolveEntry (before ++ reference name.toList ++ after) =
      before ++ reference name.toList ++ after := by
    apply foldl_resolveEntry_eq_self
    intro entry member refers
    exact others entry member
      (String.toList_inj.mp (reference_unique dollarFree braceFree refers))
  have settled : later.foldl resolveEntry (before ++ value.toList ++ after) =
      before ++ value.toList ++ after := by
    apply foldl_resolveEntry_eq_self
    intro entry _ refers
    exact plain ((reference_starts _).trans refers)
  simp only [List.mem_append, not_or] at dollarFree
  rw [expandOnce_eq_foldl, entries, List.foldl_append, List.foldl_cons, kept, resolveEntry,
    resolve_reference name value dollarFree.1.1 dollarFree.2, settled]

/-- The value of a variable is put in the place of the only reference in a text. -/
theorem expand_reference {name value text result : String} {before after : List Char}
    (bound : bindings.get? name = some (.scalar value))
    (written : text.toList = before ++ reference name.toList ++ after)
    (replaced : result.toList = before ++ value.toList ++ after)
    (dollarFree : '$' ∉ before ++ name.toList ++ after) (braceFree : '\x7d' ∉ name.toList ++ after)
    (plain : ¬referenceStart <:+: result.toList)
    (plainHost : ¬hostReferenceStart <:+: result.toList) :
    bindings.expand host limit text = .ok result := by
  have once : bindings.expandOnce text.toList = result.toList := by
    rw [replaced] at plain
    rw [written, replaced, expandOnce_reference bound dollarFree braceFree plain]
  have settled : settle bindings.expandOnce [text.toList] limit.further
      (bindings.expandOnce text.toList) = .stable result.toList := by
    rw [once]
    exact settle_of_done (.inl plain)
  rw [expand_eq_of_settled settled plainHost, String.ofList_toList]

end Runbook.Variables
