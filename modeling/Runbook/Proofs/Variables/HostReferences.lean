import Runbook.Proofs.Variables.Inserting

/-! # Inserting the host environment

The references to the host environment are meant to be replaced by values that are not
looked at again. They are replaced entry by entry, though, each in the whole text, so a
value is looked at again by the entries that come behind its own. The main statement tells
for which environments this makes no difference to any text: those in which no value can
have part in a reference to another entry.
-/

namespace Runbook.Variables

/-- The names are free of the characters that mark references to the host environment. -/
def HostPlainlyNamed (host : List (String × String)) : Prop :=
  ∀ entry ∈ host, '@' ∉ entry.1.toList ∧ '\x7b' ∉ entry.1.toList ∧ '\x7d' ∉ entry.1.toList

instance decidableHostPlainlyNamed (host : List (String × String)) :
    Decidable (HostPlainlyNamed host) :=
  inferInstanceAs (Decidable (∀ entry ∈ host,
    '@' ∉ entry.1.toList ∧ '\x7b' ∉ entry.1.toList ∧ '\x7d' ∉ entry.1.toList))

/-- What stands behind the first character of a reference. -/
def hostReferenceTail (name : List Char) : List Char := '\x7b' :: (name ++ ['\x7d'])

theorem hostReference_eq_cons (name : List Char) :
    hostReference name = '@' :: hostReferenceTail name := rfl

theorem not_mem_hostReferenceTail {name : List Char} (free : '@' ∉ name) :
    '@' ∉ hostReferenceTail name := by
  simp [hostReferenceTail, free]

theorem hostReference_append_inj {first second firstRest secondRest : List Char}
    (firstFree : '\x7d' ∉ first) (secondFree : '\x7d' ∉ second)
    (same : hostReference first ++ firstRest = hostReference second ++ secondRest) :
    first = second ∧ firstRest = secondRest := by
  simp only [hostReference, List.cons_append, List.nil_append, List.append_assoc,
    List.cons.injEq, true_and] at same
  exact append_cons_inj firstFree secondFree same

/-! ## Values put in once -/

/-- A text with the values of the host environment put in. From left to right every
reference to an entry is replaced by its value, and what has been put in is passed over. -/
@[mk_iff] inductive Inserts (host : List (String × String)) : List Char → List Char → Prop
  | nil : Inserts host [] []
  | reference {name value : String} {text result : List Char} (member : (name, value) ∈ host)
      (rest : Inserts host text result) :
      Inserts host (hostReference name.toList ++ text) (value.toList ++ result)
  | character {c : Char} {text result : List Char}
      (plain : ∀ entry ∈ host, ¬hostReference entry.1.toList <+: c :: text)
      (rest : Inserts host text result) : Inserts host (c :: text) (c :: result)

namespace Inserts

variable {host : List (String × String)} {text result : List Char}

theorem append {front : List Char}
    (nowhere : ∀ entry ∈ host, Text.StartsNowhere (hostReference entry.1.toList) front text)
    (inserts : Inserts host text result) : Inserts host (front ++ text) (front ++ result) := by
  induction front with
  | nil => exact inserts
  | cons c front induction =>
      exact .character (fun entry member => (nowhere entry member).of_cons.1)
        (induction fun entry member => (nowhere entry member).of_cons.2)

theorem of_absent (absent : ∀ entry ∈ host, ¬hostReference entry.1.toList <:+: text) :
    Inserts host text text := by
  induction text with
  | nil => exact .nil
  | cons c text induction =>
      refine .character (fun entry member starts => absent entry member starts.isInfix)
        (induction fun entry member refers => absent entry member ?_)
      exact List.infix_cons_iff.mpr (.inr refers)

/-- Only which entries there are matters, not their order. -/
theorem congr {order : List (String × String)} (same : ∀ entry, entry ∈ order ↔ entry ∈ host)
    (inserts : Inserts host text result) : Inserts order text result := by
  induction inserts with
  | nil => exact .nil
  | reference member _ induction => exact .reference ((same _).mpr member) induction
  | character plain _ induction =>
      exact .character (fun entry member => plain entry ((same entry).mp member)) induction

/-- Characters of a text that start no reference stay where they are. -/
theorem exists_of_free {front : List Char} (free : '@' ∉ front)
    (inserts : Inserts host (front ++ text) result) :
    ∃ rest, result = front ++ rest ∧ Inserts host text rest := by
  induction front generalizing result with
  | nil => exact ⟨result, rfl, inserts⟩
  | cons c front induction =>
      rcases (inserts_iff _ _ _).mp inserts with ⟨shape, -⟩ | ⟨name, value, _, _, -, -, shape, -⟩ |
        ⟨d, _, rest, -, further, shape, rfl⟩
      · cases shape
      · rw [hostReference_eq_cons] at shape
        exact absurd ((List.cons.inj shape).1 ▸ List.mem_cons_self) free
      · rcases List.cons.inj shape with ⟨rfl, rfl⟩
        rcases induction (List.not_mem_of_not_mem_cons free) further with ⟨behind, rfl, ended⟩
        exact ⟨behind, rfl, ended⟩

/-- There is one way to put the values in. -/
theorem unique {other : List Char} (named : HostPlainlyNamed host)
    (distinct : (host.map (·.1)).Nodup) (first : Inserts host text result)
    (second : Inserts host text other) : result = other := by
  induction first generalizing other with
  | nil =>
      rcases (inserts_iff _ _ _).mp second with ⟨-, rfl⟩ | ⟨name, _, _, _, -, -, shape, -⟩ |
        ⟨_, _, _, -, -, shape, -⟩
      · rfl
      · simp [hostReference] at shape
      · cases shape
  | @reference name value text result member _ induction =>
      rcases (inserts_iff _ _ _).mp second with ⟨shape, -⟩ |
        ⟨again, same, rest, _, memberAgain, inserts, shape, rfl⟩ | ⟨c, rest, _, plain, -, shape, -⟩
      · simp [hostReference] at shape
      · rcases hostReference_append_inj (named _ member).2.2 (named _ memberAgain).2.2 shape with
          ⟨names, rfl⟩
        cases List.inj_on_of_nodup_map distinct member memberAgain (String.toList_inj.mp names)
        rw [induction inserts]
      · exact absurd (shape ▸ List.prefix_append _ text) (plain _ member)
  | @character c text result plain _ induction =>
      rcases (inserts_iff _ _ _).mp second with ⟨shape, -⟩ |
        ⟨name, value, rest, _, member, -, shape, -⟩ | ⟨d, rest, _, -, inserts, shape, rfl⟩
      · cases shape
      · exact absurd (shape ▸ List.prefix_append _ rest) (plain _ member)
      · rcases List.cons.inj shape with ⟨rfl, rfl⟩
        rw [induction inserts]

end Inserts

/-! ## Values that have part in references -/

/-- A beginning and an end of a reference, neither of which is all of it. -/
structure Flanks (before after reference : List Char) : Prop where
  starts : before <+: reference
  unended : before ≠ reference
  ends : after <:+ reference
  unbegun : after ≠ reference

/-- A value can have part in a reference: between a beginning and an end of the reference it
can make the reference occur. -/
def Joins (value reference : List Char) : Prop :=
  ∃ before after, Flanks before after reference ∧ reference <:+: before ++ value ++ after

/-- Wherever the value of the first entry is put in, replacing the references to the second
one leaves it as it is. -/
def StaysVerbatim (first second : String × String) : Prop :=
  second.2.toList = hostReference second.1.toList ∨
    ¬Joins first.2.toList (hostReference second.1.toList)

section Joins

variable {value reference before front rest : List Char}

theorem joins_of_overlap (starts : before <+: reference) (proper : before ≠ reference)
    (ends : front <:+ before ++ value) (nonempty : front ≠ [])
    (occurs : reference <+: front ++ rest) : Joins value reference := by
  rcases occurs with ⟨behind, same⟩
  rcases List.append_eq_append_iff.mp same with ⟨missing, rfl, -⟩ | ⟨after, rfl, -⟩
  · refine ⟨before, [], ⟨starts, proper, List.nil_suffix, ?_⟩, ?_⟩
    · rintro rfl
      exact proper (List.prefix_nil.mp starts)
    · rw [List.append_nil]
      exact (List.prefix_append _ missing).isInfix.trans ends.isInfix
  · refine ⟨before, after, ⟨starts, proper, List.suffix_append front after, ?_⟩, ?_⟩
    · intro same
      exact nonempty (List.self_eq_append_left.mp same)
    · rcases ends with ⟨passed, whole⟩
      rw [← whole, List.append_assoc]
      exact (List.suffix_append passed (front ++ after)).isInfix

/-- No reference starts in a value that has no part in it. -/
theorem startsNowhere_of_not_joins (nonempty : reference ≠ []) (apart : ¬Joins value reference) :
    Text.StartsNowhere reference value rest := fun _ ends starts occurs =>
  apart (joins_of_overlap List.nil_prefix nonempty.symm ends starts occurs)

/-- The end of a reference that is found in the result stands in the text as well, if no value
has part in the reference. -/
theorem prefix_of_inserts {host : List (String × String)} {begun ending text result : List Char}
    (apart : ∀ entry ∈ host, ¬Joins entry.2.toList (begun ++ ending)) (starts : begun ≠ [])
    (inserts : Inserts host text result) (found : ending <+: result) : ending <+: text := by
  induction ending generalizing begun text result with
  | nil => exact List.nil_prefix
  | cons d ending induction =>
      rcases (inserts_iff _ _ _).mp inserts with ⟨-, rfl⟩ | ⟨name, value, _, rest, member, -, -, rfl⟩ |
        ⟨c, _, rest, -, further, rfl, rfl⟩
      · cases List.prefix_nil.mp found
      · refine absurd ?_ (apart _ member)
        have occurs : begun ++ d :: ending <+: begun ++ value.toList ++ rest := by
          rw [List.append_assoc]
          exact (List.prefix_append_right_inj begun).mpr found
        exact joins_of_overlap (List.prefix_append begun _) (by simp) (List.suffix_refl _)
          (by simp [starts]) occurs
      · rcases List.cons_prefix_cons.mp found with ⟨rfl, behind⟩
        refine List.cons_prefix_cons.mpr ⟨rfl, ?_⟩
        have longer : ∀ entry ∈ host, ¬Joins entry.2.toList (begun ++ [d] ++ ending) := by
          simpa using apart
        exact induction longer (by simp) further behind

/-- No reference starts at a character of the result that is none in the text. -/
theorem startsNowhere_of_inserts {host : List (String × String)} {name : List Char} {c : Char}
    {text result : List Char}
    (apart : ∀ entry ∈ host, ¬Joins entry.2.toList (hostReference name))
    (inserts : Inserts host text result) (differs : ¬hostReference name <+: c :: text) :
    Text.StartsNowhere (hostReference name) [c] result := by
  intro back ends starts occurs
  have single : back = [c] := by simpa [starts] using List.suffix_cons_iff.mp ends
  rw [single, List.singleton_append, hostReference_eq_cons, List.cons_prefix_cons] at occurs
  rw [hostReference_eq_cons, List.cons_prefix_cons] at differs
  have behind : ∀ entry ∈ host, ¬Joins entry.2.toList (['@'] ++ hostReferenceTail name) := apart
  exact differs ⟨occurs.1, prefix_of_inserts behind (by simp) inserts occurs.2⟩

end Joins

/-! ## Entry by entry -/

section Steps

variable {host : List (String × String)} {name value : String} {text result : List Char}

/-- Replacing the references to one more entry puts its value in as well. -/
theorem Inserts.substitute (free : '@' ∉ name.toList)
    (verbatim : ∀ entry ∈ host, StaysVerbatim entry (name, value))
    (inserts : Inserts host text result) :
    Inserts (host ++ [(name, value)]) text
      (Text.substitute (hostReference name.toList) value.toList result) := by
  have nonempty := hostReference_ne_nil name.toList
  have untouched : value.toList = hostReference name.toList ∨
      ∀ entry ∈ host, ¬Joins entry.2.toList (hostReference name.toList) := by
    by_cases same : value.toList = hostReference name.toList
    · exact .inl same
    · exact .inr fun entry member => (verbatim entry member).resolve_left same
  generalize size : text.length = length
  -- A reference to the new entry takes several characters at once, so the induction is on the
  -- length of the text and not on the way in which the values were put in.
  induction length using Nat.strong_induction_on generalizing text result with
  | _ length induction =>
      cases inserts with
      | nil =>
          rw [Text.substitute_nil _ nonempty]
          exact .nil
      | @reference other inserted text result member rest =>
          have shorter : text.length < length := by
            simp only [List.length_append, hostReference, List.length_cons] at size
            omega
          rw [Text.substitute_append_of_untouched nonempty (untouched.imp_right fun apart =>
            startsNowhere_of_not_joins nonempty (apart _ member))]
          exact .reference (List.mem_append_left _ member) (induction _ shorter rest rfl)
      | @character c text result plain rest =>
          rw [List.length_cons] at size
          by_cases refers : hostReference name.toList <+: c :: text
          · rcases refers with ⟨behind, same⟩
            rw [hostReference_eq_cons, List.cons_append] at same
            rcases List.cons.inj same with ⟨rfl, rfl⟩
            rcases rest.exists_of_free (not_mem_hostReferenceTail free) with
              ⟨further, rfl, inserts⟩
            rw [← List.cons_append, ← List.cons_append, ← hostReference_eq_cons,
              Text.substitute_append _ nonempty]
            rw [List.length_append] at size
            exact .reference (by simp) (induction _ (by omega) inserts rfl)
          · rw [← List.singleton_append (l := result),
              Text.substitute_append_of_untouched nonempty (untouched.imp_right fun apart =>
                startsNowhere_of_inserts apart rest refers)]
            refine .character (fun entry member => ?_) (induction _ (by omega) rest rfl)
            rcases List.mem_append.mp member with earlier | last
            · exact plain entry earlier
            · rwa [List.mem_singleton.mp last]

theorem expandHost_append (earlier later : List (String × String)) (text : List Char) :
    expandHost (earlier ++ later) text = expandHost later (expandHost earlier text) :=
  List.foldl_append

/-- What is put in stays as it is if it is verbatim to the entries that come later. -/
theorem inserts_expandHost (named : HostPlainlyNamed host) (verbatim : host.Pairwise StaysVerbatim)
    (text : List Char) : Inserts host text (expandHost host text) := by
  induction host using List.reverseRecOn with
  | nil => exact .of_absent (by simp)
  | append_singleton earlier entry induction =>
      rcases List.pairwise_append.mp verbatim with ⟨before, -, between⟩
      have free := (named entry (by simp)).1
      rw [expandHost_append]
      refine (induction (fun other member => named other (by simp [member])) before).substitute free
        fun other member => between other member entry (by simp)

end Steps

/-! ## Values in the midst of another reference -/

namespace Flanks

variable {before after other : List Char} (flanks : Flanks before after (hostReference other))
include flanks

/-- Nothing that has begun but not ended another reference holds the start of one. -/
theorem startsNowhere {name : List Char} (free : '@' ∉ name) (closed : '\x7d' ∉ other)
    (rest : List Char) : Text.StartsNowhere (hostReference name) before ('@' :: rest) := by
  have opened : '\x7d' ∉ before := by
    have short : before <+: ['@', '\x7b'] ++ other :=
      (List.prefix_concat_iff.mp flanks.starts).resolve_left flanks.unended
    exact fun member => absurd (short.subset member) (by simp [closed])
  have ended : '\x7d' ∈ hostReference name := by simp [hostReference]
  rintro back ends nonempty ⟨behind, same⟩
  rcases List.append_eq_append_iff.mp same with ⟨missing, rfl, -⟩ | ⟨missing, shape, more⟩
  · exact opened (ends.subset (List.mem_append_left _ ended))
  · rcases List.exists_cons_of_ne_nil nonempty with ⟨c, back, rfl⟩
    cases missing with
    | nil =>
        rw [List.append_nil] at shape
        exact opened (ends.subset (shape ▸ ended))
    | cons d missing =>
        rcases List.cons.inj more with ⟨rfl, -⟩
        have inside : hostReferenceTail name = back ++ '@' :: missing := (List.cons.inj shape).2
        exact not_mem_hostReferenceTail free (inside ▸ List.mem_append_cons_self)

theorem not_mem (free : '@' ∉ other) : '@' ∉ after := fun member =>
  have short : after <:+ hostReferenceTail other :=
    (List.suffix_cons_iff.mp flanks.ends).resolve_left flanks.unbegun
  not_mem_hostReferenceTail free (short.subset member)

theorem not_infix (free : '@' ∉ other) (name : List Char) : ¬hostReference name <:+: after :=
  fun refers => flanks.not_mem free (refers.subset List.mem_cons_self)

end Flanks

section Placing

variable {host : List (String × String)} {first second : String × String}
  {before after : List Char}

theorem not_infix_hostReference_append {name other : List Char} (free : '@' ∉ other)
    (closed : '\x7d' ∉ name) (closedOther : '\x7d' ∉ other) (different : name ≠ other)
    (freeAfter : '@' ∉ after) :
    ¬hostReference name <:+: hostReference other ++ after := fun refers => by
  rcases List.infix_cons_iff.mp refers with ⟨rest, starts⟩ | behind
  · exact different (hostReference_append_inj closed closedOther starts).1
  · rcases List.mem_append.mp (behind.subset List.mem_cons_self) with inside | inside
    · exact not_mem_hostReferenceTail free inside
    · exact freeAfter inside

section Flanked

variable (named : HostPlainlyNamed host) (member : first ∈ host) (memberSecond : second ∈ host)
  (flanks : Flanks before after (hostReference second.1.toList))
include named member memberSecond flanks

/-- Between the flanks of another reference, a reference is replaced by its value. -/
theorem inserts_flanked :
    Inserts host (before ++ (hostReference first.1.toList ++ after))
      (before ++ (first.2.toList ++ after)) :=
  .append (fun entry inside =>
      flanks.startsNowhere (named entry inside).1 (named second memberSecond).2.2 _)
    (.reference member (.of_absent fun entry _ =>
      flanks.not_infix (named second memberSecond).1 entry.1.toList))

theorem expandHost_flanked :
    expandHost [first] (before ++ (hostReference first.1.toList ++ after)) =
      before ++ (first.2.toList ++ after) := by
  have nonempty := hostReference_ne_nil first.1.toList
  have nowhere : Text.StartsNowhere (hostReference first.1.toList) before
      (hostReference first.1.toList ++ after) :=
    flanks.startsNowhere (named first member).1 (named second memberSecond).2.2 _
  rw [expandHost, List.foldl_cons, List.foldl_nil, nowhere.substitute nonempty,
    Text.substitute_append _ nonempty,
    Text.substitute_eq_self _ nonempty (flanks.not_infix (named second memberSecond).1 _)]

/-- There is no other reference. -/
theorem not_infix_flanked {entry : String × String} (inside : entry ∈ host)
    (different : entry.1 ≠ first.1) :
    ¬hostReference entry.1.toList <:+: before ++ (hostReference first.1.toList ++ after) := by
  have nowhere : Text.StartsNowhere (hostReference entry.1.toList) before
      (hostReference first.1.toList ++ after) :=
    flanks.startsNowhere (named entry inside).1 (named second memberSecond).2.2 _
  refine nowhere.not_infix ?_
  exact not_infix_hostReference_append (named first member).1 (named entry inside).2.2
    (named first member).2.2 (fun names => different (String.toList_inj.mp names))
    (flanks.not_mem (named second memberSecond).1)

end Flanked

theorem perm_moved_last (member : first ∈ host) (memberSecond : second ∈ host)
    (different : first ≠ second) :
    ((host.erase first).erase second ++ [first, second]).Perm host := by
  have later : second ∈ host.erase first := (List.mem_erase_of_ne different.symm).mpr memberSecond
  refine List.perm_append_comm.trans ?_
  exact ((List.perm_cons_erase later).symm.cons first).trans (List.perm_cons_erase member).symm

/-- If a value can have part in a reference to another entry, there is a text in which it is
looked at again once these two entries come last, so it makes no difference only if the
reference stands for itself. -/
theorem eq_hostReference_of_joins (named : HostPlainlyNamed host)
    (distinct : (host.map (·.1)).Nodup) (member : first ∈ host) (memberSecond : second ∈ host)
    (different : first ≠ second)
    (always : ∀ order, order.Perm host → ∀ text, Inserts host text (expandHost order text))
    (joins : Joins first.2.toList (hostReference second.1.toList)) :
    second.2.toList = hostReference second.1.toList := by
  rcases joins with ⟨before, after, flanks, occurs⟩
  -- All other entries come first and find nothing to replace. Then the value of the first entry is
  -- put in between the flanks, and the second entry finds a reference to itself there.
  have absent : ∀ entry ∈ (host.erase first).erase second,
      ¬hostReference entry.1.toList <:+: before ++ (hostReference first.1.toList ++ after) := by
    intro entry inside
    have nodup : host.Nodup := .of_map _ distinct
    have apart := nodup.mem_erase_iff.mp (List.mem_of_mem_erase inside)
    exact not_infix_flanked named member memberSecond flanks apart.2 fun names =>
      apart.1 (List.inj_on_of_nodup_map distinct apart.2 member names)
  have expanded := always _ (perm_moved_last member memberSecond different)
    (before ++ (hostReference first.1.toList ++ after))
  rw [expandHost_append, expandHost_of_absent absent, ← List.singleton_append, expandHost_append,
    expandHost_flanked named member memberSecond flanks] at expanded
  have same := expanded.unique named distinct (inserts_flanked named member memberSecond flanks)
  refine Text.eq_of_substitute_eq_self (hostReference_ne_nil _) ?_ same
  rwa [← List.append_assoc]

end Placing

/-! ## Which environments are put in verbatim -/

/-- The references of every text are replaced once, by values that are put in verbatim, if no
value can have part in a reference to an entry that comes later. This holds in any order of
the entries exactly if no value can have part in a reference to another entry. -/
theorem expandHost_inserts_iff {host : List (String × String)} (named : HostPlainlyNamed host)
    (distinct : (host.map (·.1)).Nodup) :
    (host.Pairwise StaysVerbatim → ∀ text, Inserts host text (expandHost host text)) ∧
      ((∀ order, order.Perm host → ∀ text, Inserts host text (expandHost order text)) ↔
        ∀ first ∈ host, ∀ second ∈ host, first ≠ second → StaysVerbatim first second) := by
  refine ⟨inserts_expandHost named, fun always first member second memberSecond different => ?_,
    fun verbatim order perm text => ?_⟩
  · exact or_iff_not_imp_right.mpr fun joins =>
      eq_hostReference_of_joins named distinct member memberSecond different always
        (not_not.mp joins)
  · have members (entry) : entry ∈ host ↔ entry ∈ order := perm.mem_iff.symm
    have nodup : order.Nodup := perm.nodup_iff.mpr (.of_map _ distinct)
    refine .congr members (inserts_expandHost (fun entry inside => ?_) ?_ text)
    · exact named entry (perm.mem_iff.mp inside)
    · refine nodup.pairwise_of_forall_ne fun first member second memberSecond different => ?_
      exact verbatim first (perm.mem_iff.mp member) second (perm.mem_iff.mp memberSecond) different

/-- An environment in which one value is a reference to the entry behind it. -/
def forwardingHost : List (String × String) := [("LE_REF", "@\x7bLE_HOME\x7d"), ("LE_HOME", "/h")]

/-- The value put in for one reference is taken for a reference itself. -/
theorem expandHost_inserts_iff_forwarding :
    HostPlainlyNamed forwardingHost ∧ (forwardingHost.map (·.1)).Nodup ∧
      Inserts forwardingHost "@\x7bLE_REF\x7d".toList "@\x7bLE_HOME\x7d".toList ∧
        Variables.empty.expand forwardingHost (.passes 100) "@\x7bLE_REF\x7d" = .ok "/h" ∧
          ¬∀ order, order.Perm forwardingHost → ∀ text,
            Inserts forwardingHost text (expandHost order text) := by
  have named : HostPlainlyNamed forwardingHost := by decide
  have distinct : (forwardingHost.map (·.1)).Nodup := by decide
  have member : ("LE_REF", "@\x7bLE_HOME\x7d") ∈ forwardingHost := List.mem_cons_self
  have inserts : Inserts forwardingHost "@\x7bLE_REF\x7d".toList "@\x7bLE_HOME\x7d".toList :=
    .reference member .nil
  have expanded : Variables.empty.expand forwardingHost (.passes 100) "@\x7bLE_REF\x7d" =
      .ok "/h" := by
    rfl
  refine ⟨named, distinct, inserts, expanded, fun always => ?_⟩
  rcases (expandHost_inserts_iff named distinct).2.mp always ("LE_REF", "@\x7bLE_HOME\x7d")
    (by decide) ("LE_HOME", "/h") (by decide) (by decide) with itself | apart
  · exact absurd itself (by decide)
  · exact apart ⟨[], [], ⟨List.nil_prefix, by decide, List.nil_suffix, by decide⟩, by decide⟩

end Runbook.Variables
