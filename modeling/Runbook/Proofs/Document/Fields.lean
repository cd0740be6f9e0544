import Runbook.Document.Build
import Runbook.Proofs.Number.Comparing
import Runbook.Proofs.Results

/-! # Fields of mappings

Numbers of different kinds can be the same key, and what is not a number is not even the
same key as itself. Being the same key is symmetric and transitive all the same, and this is
enough for setting and looking up. In a mapping that is read no key occurs twice.
-/

namespace Runbook.Document

/-! ## Keys -/

namespace Value

/-- Two values are the same key as whole numbers, as other numbers, or as the same value. -/
theorem sameKey_iff {a b : Value} : a.sameKey b = true ↔
    (∃ n, a.whole? = some n ∧ b.whole? = some n) ∨
      a.whole? = none ∧ b.whole? = none ∧
        ((∃ x y, a = .decimal x ∧ b = .decimal y ∧ x.eq y = true) ∨
          a = b ∧ ∀ x, a ≠ .decimal x) := by
  unfold sameKey
  cases first : a.whole? with
  | some m =>
      cases second : b.whole? with
      | some n => simpa using eq_comm
      | none => simp
  | none =>
      cases second : b.whole? with
      | some n => simp
      | none =>
          dsimp only
          split
          · simp
          · rename_i unlike
            have decimal : (∃ x y, a = .decimal x ∧ b = .decimal y ∧ x.eq y = true) ↔ False := by
              simp only [iff_false]
              rintro ⟨x, y, rfl, rfl, -⟩
              exact unlike x y rfl rfl
            simp only [reduceCtorEq, false_and, exists_false, beq_iff_eq, true_and, decimal,
              false_or, iff_self_and]
            rintro rfl x rfl
            exact unlike x x rfl rfl

theorem sameKey_symm {a b : Value} (same : a.sameKey b = true) : b.sameKey a = true := by
  rcases sameKey_iff.mp same with ⟨n, first, second⟩ | ⟨first, second, numbers | values⟩
  · exact sameKey_iff.mpr (.inl ⟨n, second, first⟩)
  · rcases numbers with ⟨x, y, rfl, rfl, equal⟩
    exact sameKey_iff.mpr (.inr ⟨second, first, .inl ⟨y, x, rfl, rfl, y.eq_symm x ▸ equal⟩⟩)
  · rcases values with ⟨rfl, other⟩
    exact same

theorem sameKey_trans {a b c : Value} (first : a.sameKey b = true) (second : b.sameKey c = true) :
    a.sameKey c = true := by
  rcases sameKey_iff.mp first with ⟨m, wholeFirst, whole⟩ | ⟨fractional, _, numbers | values⟩
  · rcases sameKey_iff.mp second with ⟨n, again, wholeSecond⟩ | ⟨none, _⟩
    · rw [whole] at again
      exact sameKey_iff.mpr (.inl ⟨m, wholeFirst, again ▸ wholeSecond⟩)
    · rw [whole] at none
      cases none
  · rcases numbers with ⟨x, y, rfl, rfl, equal⟩
    rcases sameKey_iff.mp second with ⟨n, again, _⟩ | ⟨_, last, numbers | values⟩
    · simp_all
    · rcases numbers with ⟨_, z, ⟨⟩, rfl, further⟩
      exact sameKey_iff.mpr
        (.inr ⟨fractional, last, .inl ⟨x, z, rfl, rfl, Double.eq_trans equal further⟩⟩)
    · exact absurd rfl (values.2 y)
  · rcases values with ⟨rfl, other⟩
    exact second

theorem sameKey_congr {a b : Value} (same : a.sameKey b = true) (c : Value) :
    a.sameKey c = b.sameKey c := by
  rw [Bool.eq_iff_iff]
  exact ⟨sameKey_trans (sameKey_symm same), sameKey_trans same⟩

@[simp] theorem sameKey_text {name : String} {key : Value} :
    (Value.text name).sameKey key = true ↔ key = .text name := by
  rw [sameKey_iff]
  constructor
  · rintro (⟨n, whole, -⟩ | ⟨-, -, ⟨x, y, decimal, -⟩ | ⟨same, -⟩⟩)
    · cases whole
    · cases decimal
    · exact same.symm
  · rintro rfl
    exact .inr ⟨rfl, rfl, .inr ⟨rfl, fun x decimal => by cases decimal⟩⟩

@[simp] theorem sameKey_text_right {name : String} {key : Value} :
    key.sameKey (.text name) = true ↔ key = .text name :=
  ⟨fun same => sameKey_text.mp (sameKey_symm same), fun same => by simp [same]⟩

end Value

/-! ## Looking up -/

namespace Fields

theorem get?_set (fields : Fields) (key value other : Value) :
    (fields.set key value).get? other =
      if key.sameKey other then some value else fields.get? other := by
  fun_induction set fields key value with
  | case1 key value => rfl
  | case2 first old tail key value same =>
      rw [get?, get?, Value.sameKey_congr same]
      split
      · rfl
      · rfl
  | case3 first old tail key value different induction =>
      rw [get?, get?, induction]
      split
      · rename_i found
        rw [if_neg]
        exact fun same => different (Value.sameKey_trans found (Value.sameKey_symm same))
      · rfl

/-- No two entries have the same key. -/
def Distinct (fields : Fields) : Prop :=
  fields.toList.Pairwise fun first second => first.1.sameKey second.1 = false

theorem get?_eq_none_iff {fields : Fields} {key : Value} :
    fields.get? key = none ↔ ∀ entry ∈ fields.toList, entry.1.sameKey key = false := by
  fun_induction get? fields key with
  | case1 key => simp [toList]
  | case2 key other value tail same => simp [toList, same]
  | case3 key other value tail different induction =>
      simp only [Bool.not_eq_true] at different
      simp [toList, different, induction]

theorem toList_ofList (entries : List (Value × Value)) : (ofList entries).toList = entries := by
  induction entries with
  | nil => rfl
  | cons entry rest induction => rw [ofList, toList, induction]

/-- The keys that are not there yet are those that differ from the new one. -/
theorem mem_set {fields : Fields} {key value : Value} {entry : Value × Value}
    (member : entry ∈ (fields.set key value).toList) :
    (∃ old, (entry.1, old) ∈ fields.toList) ∨ entry = (key, value) := by
  fun_induction set fields key value with
  | case1 key value => exact .inr (List.mem_singleton.mp member)
  | case2 first old tail key value same =>
      rcases List.mem_cons.mp member with rfl | member
      · exact .inl ⟨old, by simp [toList]⟩
      · exact .inl ⟨entry.2, by simp [toList, member]⟩
  | case3 first old tail key value different induction =>
      rcases List.mem_cons.mp member with rfl | member
      · exact .inl ⟨old, by simp [toList]⟩
      · rcases induction member with ⟨other, member⟩ | same
        · exact .inl ⟨other, by simp [toList, member]⟩
        · exact .inr same

theorem Distinct.set {fields : Fields} (distinct : fields.Distinct) (key value : Value) :
    (fields.set key value).Distinct := by
  fun_induction Fields.set fields key value with
  | case1 key value => exact List.pairwise_singleton _ _
  | case2 first old tail key value same =>
      rcases List.pairwise_cons.mp distinct with ⟨apart, distinct⟩
      exact List.pairwise_cons.mpr ⟨apart, distinct⟩
  | case3 first old tail key value different induction =>
      rcases List.pairwise_cons.mp distinct with ⟨apart, distinct⟩
      refine List.pairwise_cons.mpr ⟨fun entry member => ?_, induction distinct⟩
      rcases mem_set member with ⟨before, member⟩ | rfl
      · exact apart (entry.1, before) member
      · simpa using different

theorem distinct_ofPairs (pairs : List (Value × Value)) : (ofPairs pairs).Distinct := by
  refine List.foldlRecOn pairs _ List.Pairwise.nil fun fields distinct entry _ => ?_
  exact Distinct.set distinct entry.1 entry.2

/-- What is found first in a mapping is not found again. -/
theorem Distinct.get?_tail {first value : Value} {tail : Fields}
    (distinct : (Fields.cons first value tail).Distinct) {key : Value}
    (same : first.sameKey key = true) : tail.get? key = none := by
  refine get?_eq_none_iff.mpr fun entry member => ?_
  have apart := (List.pairwise_cons.mp distinct).1 entry member
  by_contra found
  have found := Value.sameKey_symm ((Bool.not_eq_false _).mp found)
  rw [← Value.sameKey_congr same, apart] at found
  cases found

/-- Setting all entries of a mapping: what it has wins over what was there before. -/
theorem get?_setAll : {changes : Fields} → changes.Distinct → (fields : Fields) → (key : Value) →
    (changes.toList.foldl (fun fields entry => fields.set entry.1 entry.2) fields).get? key =
      (changes.get? key).or (fields.get? key)
  | .nil, _, _, _ => rfl
  | .cons first value tail, distinct, fields, key => by
      have rest := (List.pairwise_cons.mp distinct).2
      rw [toList, List.foldl_cons, get?_setAll rest, get?_set, get?]
      split
      · rw [distinct.get?_tail ‹_›]
        rfl
      · rfl

/-- Leaving out entries of a mapping: what is found is found unless it is left out. -/
theorem get?_filter (keeps : Value × Value → Bool) {key : Value}
    (respects : ∀ other value, other.sameKey key = true → keeps (other, value) = keeps (key, value)) :
    {fields : Fields} → fields.Distinct →
      (ofList (fields.toList.filter keeps)).get? key =
        (fields.get? key).filter fun value => keeps (key, value)
  | .nil, _ => rfl
  | .cons first value tail, distinct => by
      have induction := get?_filter keeps respects (List.pairwise_cons.mp distinct).2
      rw [toList, List.filter_cons, get?]
      split
      · rename_i kept
        rw [ofList, get?, induction]
        split
        · rename_i same
          rw [Option.filter_some_pos]
          rw [← respects first value same, kept]
        · rfl
      · rename_i dropped
        rw [induction]
        split
        · rename_i same
          rw [distinct.get?_tail same, Option.filter_some_neg]
          · rfl
          · rw [← respects first value same]
            exact Bool.eq_false_of_not_eq_true dropped
        · rfl

theorem Distinct.filter {fields : Fields} (distinct : fields.Distinct)
    (keeps : Value × Value → Bool) : (ofList (fields.toList.filter keeps)).Distinct := by
  rw [Distinct, toList_ofList]
  exact List.Pairwise.filter keeps distinct

end Fields

/-! ## Mappings of documents -/

/-- What is read is no mapping. -/
def Mappingless (reading : Reading Value) : Prop := ∀ fields, reading ≠ .ok (.mapping fields)

namespace Mappingless

variable {α : Type} {first : Reading α} {next : α → Reading Value}

theorem error (fault : Fault) : Mappingless (.error fault) := fun _ same => by cases same

theorem bind (rest : ∀ value, Mappingless (next value)) : Mappingless (first >>= next) := by
  intro fields read
  rcases Results.bind_eq_ok_iff.mp read with ⟨value, -, read⟩
  exact rest value fields read

theorem readBoolean (text : String) : Mappingless (readBoolean text) := by
  unfold Document.readBoolean
  split
  · exact fun _ same => by cases same
  · exact error _

theorem readInteger (text : String) : Mappingless (readInteger text) :=
  bind fun _ => bind fun _ _ same => by cases same

theorem readDecimal (text : String) : Mappingless (readDecimal text) := by
  refine bind fun _ => ?_
  dsimp only
  split
  · exact fun _ same => by cases same
  · split
    · exact fun _ same => by cases same
    · split
      · exact bind fun _ => bind fun _ _ same => by cases same
      · exact bind fun _ _ same => by cases same

theorem guarded {condition : Prop} [Decidable condition] {fault : Fault} {rest : Reading Value}
    {refused : Unit → Reading Value} (free : Mappingless rest) :
    Mappingless (if condition then throw fault >>= refused else rest) := by
  split
  · exact error fault
  · exact free

theorem checkMoment (moment : Moment) : Mappingless (checkMoment moment) := by
  unfold Document.checkMoment
  refine guarded (guarded (guarded (guarded ?_)))
  cases moment.time with
  | none => exact fun _ same => by cases same
  | some time => exact guarded (guarded (guarded fun _ same => by cases same))

theorem readMoment (text : String) : Mappingless (readMoment text) := by
  unfold Document.readMoment
  dsimp only
  split
  · exact error _
  · split
    · split
      · exact checkMoment _
      · exact checkMoment _
    · exact error _

theorem readBytes (text : String) : Mappingless (readBytes text) := by
  unfold Document.readBytes
  dsimp only
  split
  · split
    · exact fun _ same => by cases same
    · exact error _
  · exact error _

end Mappingless

theorem distinct_of_buildAs {tag : Tag} {text : Reading String} {elements : Reading (List Value)}
    {entries : Reading (List (Value × Value))} {fields : Fields}
    (built : buildAs tag text elements entries = .ok (.mapping fields)) : fields.Distinct := by
  cases tag with
  | null | text =>
      cases text with
      | error => cases built
      | ok => cases built
  | boolean => exact absurd built (Mappingless.bind Mappingless.readBoolean fields)
  | integer => exact absurd built (Mappingless.bind Mappingless.readInteger fields)
  | decimal => exact absurd built (Mappingless.bind Mappingless.readDecimal fields)
  | moment => exact absurd built (Mappingless.bind Mappingless.readMoment fields)
  | bytes => exact absurd built (Mappingless.bind Mappingless.readBytes fields)
  | sequence =>
      cases elements with
      | error => cases built
      | ok => cases built
  | mapping =>
      cases entries with
      | error => cases built
      | ok pairs =>
          cases built
          exact Fields.distinct_ofPairs pairs
  | set =>
      cases entries with
      | error => cases built
      | ok => cases built
  | orderedMapping | pairs | merge | defaultValue | other => cases built

theorem distinct_of_build {node : Node} {fields : Fields}
    (built : node.build = .ok (.mapping fields)) : fields.Distinct := by
  cases node with
  | cycle =>
      rw [Node.build] at built
      cases built
  | scalar | mapping =>
      rw [Node.build] at built
      exact distinct_of_buildAs built
  | sequence tag items =>
      rw [Node.build] at built
      split at built
      · cases pairs : items.buildPairs with
        | error =>
            rw [pairs] at built
            cases built
        | ok =>
            rw [pairs] at built
            cases built
      · exact distinct_of_buildAs built

/-- A reader that gives no mapping in which a key occurs twice. -/
def Reader.IsKeyed (reader : Reader) : Prop :=
  ∀ ⦃text fields⦄, reader text = .ok (.mapping fields) → fields.Distinct

theorem isKeyed_read : Reader.IsKeyed read := by
  intro text fields read
  rcases Results.bind_eq_ok_iff.mp read with ⟨node, -, read⟩
  cases node with
  | none => cases read
  | some node => exact distinct_of_build read

end Runbook.Document
