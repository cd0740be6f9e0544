import Mathlib.Dynamics.PeriodicPts.Defs
import Runbook.Proofs.Variables.Passes

/-! # How expansions settle

The texts that an expansion goes through are the iterates of one pass. Settling ends
at a text that a further pass would not change, or it has come back to an earlier text,
or the passes have run out over texts that are all different. If the iterates come to
a text that stays as it is before the passes run out, this is where settling ends.
-/

namespace Runbook.Variables

/-! ## Iterates -/

section Iterates

variable (pass : List Char → List Char) (text : List Char)

/-- The iterates before number `count`, the newest first. -/
def earlier : (count : Nat) → List (List Char)
  | 0 => []
  | count + 1 => pass^[count] text :: earlier count

/-- The iterates up to number `last` are all different. -/
def DistinctUpTo (last : Nat) : Prop :=
  ∀ i j, i < j → j ≤ last → pass^[i] text ≠ pass^[j] text

variable {pass text}

theorem mem_earlier {count : Nat} {found : List Char} :
    found ∈ earlier pass text count ↔ ∃ i < count, pass^[i] text = found := by
  induction count with
  | zero => simp [earlier]
  | succ count induction =>
      rw [earlier, List.mem_cons, induction]
      constructor
      · rintro (rfl | ⟨i, before, rfl⟩)
        · exact ⟨count, by omega, rfl⟩
        · exact ⟨i, by omega, rfl⟩
      · rintro ⟨i, before, rfl⟩
        rcases Nat.lt_succ_iff_lt_or_eq.mp before with before | rfl
        · exact .inr ⟨i, before, rfl⟩
        · exact .inl rfl

theorem distinctUpTo_zero : DistinctUpTo pass text 0 := by
  intro i j before last
  omega

theorem DistinctUpTo.succ {last : Nat} (distinct : DistinctUpTo pass text last)
    (new : pass^[last + 1] text ∉ earlier pass text (last + 1)) :
    DistinctUpTo pass text (last + 1) := by
  intro i j before bound
  rcases Nat.lt_succ_iff_lt_or_eq.mp (Nat.lt_succ_iff.mpr bound) with bound | rfl
  · exact distinct i j before (by omega)
  · intro same
    exact new (mem_earlier.mpr ⟨i, before, same⟩)

theorem iterate_add_of_fixed {count : Nat} (fixed : pass (pass^[count] text) = pass^[count] text)
    (more : Nat) : pass^[count + more] text = pass^[count] text := by
  rw [Nat.add_comm, Function.iterate_add_apply]
  exact Function.iterate_fixed fixed more

/-- The iterates of a pass come to one fixpoint at most. -/
theorem fixed_unique {first second : Nat}
    (firstFixed : pass (pass^[first] text) = pass^[first] text)
    (secondFixed : pass (pass^[second] text) = pass^[second] text) :
    pass^[first] text = pass^[second] text := by
  rw [← iterate_add_of_fixed firstFixed second, ← iterate_add_of_fixed secondFixed first,
    Nat.add_comm]

/-- What comes back to itself and comes to a fixpoint is that fixpoint. -/
theorem fixed_of_returns {count period : Nat} (moves : 0 < period)
    (returns : pass^[period] text = text)
    (fixed : pass (pass^[count] text) = pass^[count] text) : pass text = text := by
  have again : pass^[period * count] text = text :=
    Function.IsPeriodicPt.mul_const (f := pass) returns count
  have far : count ≤ period * count := Nat.le_mul_of_pos_left count moves
  have arrived : pass^[count] text = text := by
    rw [← iterate_add_of_fixed fixed (period * count - count), Nat.add_sub_of_le far, again]
  rwa [arrived] at fixed

end Iterates

/-! ## Settling -/

section Equations

variable {pass : List Char → List Char} {seen : List (List Char)} {result : List Char}

theorem settle_of_done {further : Nat} (done : ¬referenceStart <:+: result ∨ result ∈ seen) :
    settle pass seen further result = .stable result := by
  unfold settle
  rw [if_pos]
  rcases done with plain | known
  · simp [← Bool.not_eq_true, plain]
  · simp [known]

theorem settle_zero (refers : referenceStart <:+: result) (new : result ∉ seen) :
    settle pass seen 0 result = .unfinished := by
  rw [settle, if_neg]
  simp [refers, new]

theorem settle_succ {further : Nat} (refers : referenceStart <:+: result) (new : result ∉ seen) :
    settle pass seen (further + 1) result =
      if pass result = result then .stable result
      else if pass result ∈ result :: seen then .revisited
      else settle pass (result :: seen) further (pass result) := by
  rw [settle, if_neg]
  · simp only [List.contains_iff_mem]
  · simp [refers, new]

end Equations

section Justification

variable {pass : List Char → List Char} {text : List Char}

/-- What the way in which settling ended says about the iterates up to number `last`. -/
def Justified (pass : List Char → List Char) (text : List Char) (last : Nat) : Settled → Prop
  | .stable result => pass result = result ∧ ∃ count, pass^[count] text = result
  | .revisited => ∃ k, DistinctUpTo pass text k ∧ ∃ j < k, pass^[k + 1] text = pass^[j] text
  | .unfinished => DistinctUpTo pass text last ∧ referenceStart <:+: pass^[last] text

variable (idle : ∀ text, ¬referenceStart <:+: text → pass text = text)
include idle

/-- The first pass may reproduce the text, so that the first iterate that settling looks
at may have been there before. All others are known to be new. -/
theorem fixed_of_done {count : Nat} (first : count = 0 ∨ DistinctUpTo pass text (count + 1))
    (done : ¬referenceStart <:+: pass^[count + 1] text ∨
      pass^[count + 1] text ∈ earlier pass text (count + 1)) :
    pass (pass^[count + 1] text) = pass^[count + 1] text := by
  rcases done with plain | known
  · exact idle _ plain
  · rcases mem_earlier.mp known with ⟨i, before, same⟩
    rcases first with rfl | distinct
    · have reproduced : text = pass text := by
        rw [Nat.lt_one_iff.mp before] at same
        exact same
      exact congrArg pass reproduced.symm
    · exact absurd same (distinct i (count + 1) before le_rfl)

theorem settle_justified {count further : Nat} (distinct : DistinctUpTo pass text count)
    (first : count = 0 ∨ DistinctUpTo pass text (count + 1)) :
    Justified pass text (count + 1 + further)
      (settle pass (earlier pass text (count + 1)) further (pass^[count + 1] text)) := by
  induction further generalizing count with
  | zero =>
      by_cases done : ¬referenceStart <:+: pass^[count + 1] text ∨
          pass^[count + 1] text ∈ earlier pass text (count + 1)
      · rw [settle_of_done done]
        exact ⟨fixed_of_done idle first done, count + 1, rfl⟩
      · rw [not_or, not_not] at done
        rw [settle_zero done.1 done.2]
        exact ⟨distinct.succ done.2, done.1⟩
  | succ further induction =>
      by_cases done : ¬referenceStart <:+: pass^[count + 1] text ∨
          pass^[count + 1] text ∈ earlier pass text (count + 1)
      · rw [settle_of_done done]
        exact ⟨fixed_of_done idle first done, count + 1, rfl⟩
      · rw [not_or, not_not] at done
        have distinct := distinct.succ done.2
        have next : pass (pass^[count + 1] text) = pass^[count + 2] text :=
          (Function.iterate_succ_apply' pass (count + 1) text).symm
        rw [settle_succ done.1 done.2, next]
        split
        · rename_i fixed
          exact ⟨next.trans fixed, count + 1, rfl⟩
        · split
          · rename_i moves known
            have known : pass^[count + 2] text ∈ earlier pass text (count + 2) := known
            rcases mem_earlier.mp known with ⟨i, before, same⟩
            have different : i ≠ count + 1 := by
              rintro rfl
              exact moves same.symm
            exact ⟨count + 1, distinct, i, by omega, same.symm⟩
          · rename_i new
            rw [show count + 1 + (further + 1) = count + 1 + 1 + further by omega]
            exact induction distinct (.inr (distinct.succ new))

/-- Settling from a text on, as an expansion does. -/
theorem expansion_justified (text : List Char) (further : Nat) :
    Justified pass text (1 + further) (settle pass [text] further (pass text)) :=
  @settle_justified pass text idle 0 further distinctUpTo_zero (.inl rfl)

/-- If the iterates come to a fixpoint, settling does not end elsewhere, unless the passes
run out. -/
theorem settle_of_fixed {count : Nat} (further : Nat)
    (fixed : pass (pass^[count] text) = pass^[count] text) :
    settle pass [text] further (pass text) = .stable (pass^[count] text) ∨
      settle pass [text] further (pass text) = .unfinished ∧ 1 + further ≤ count := by
  have justified := expansion_justified idle text further
  have repeats : pass^[count] text = pass^[count + 1] text :=
    fixed.symm.trans (Function.iterate_succ_apply' pass count text).symm
  generalize settle pass [text] further (pass text) = settled at justified ⊢
  cases settled with
  | stable result =>
      rcases justified with ⟨stays, reached, rfl⟩
      exact .inl (congrArg Settled.stable (fixed_unique stays fixed))
  | revisited =>
      rcases justified with ⟨k, distinct, j, before, back⟩
      have returns : pass^[k + 1 - j] (pass^[j] text) = pass^[j] text := by
        rw [← Function.iterate_add_apply, Nat.sub_add_cancel (by omega), back]
      have later : pass (pass^[count] (pass^[j] text)) = pass^[count] (pass^[j] text) := by
        rw [← Function.iterate_add_apply, iterate_add_of_fixed fixed, fixed]
      have stays := fixed_of_returns (by omega) returns later
      have same : pass^[j] text = pass^[j + 1] text :=
        stays.symm.trans (Function.iterate_succ_apply' pass j text).symm
      exact absurd same (distinct j (j + 1) (by omega) (by omega))
  | unfinished =>
      refine .inr ⟨rfl, ?_⟩
      by_contra early
      exact justified.1 count (count + 1) (by omega) (by omega) repeats

end Justification

/-! ## The passes of an expansion -/

section Noting

/-- `settle` for passes that have effects. -/
def settleWith {m : Type → Type} [Monad m] (pass : List Char → m (List Char))
    (seen : List (List Char)) : (further : Nat) → (result : List Char) → m Settled
  | further, result =>
      if !Text.contains referenceStart result || seen.contains result then
        return .stable result
      else
        match further with
        | 0 => return .unfinished
        | further + 1 => do
            let next ← pass result
            if next = result then return .stable result
            else if (result :: seen).contains next then return .revisited
            else settleWith pass (result :: seen) further next

/-- `expandVariables` for passes that have effects. -/
def expandVariablesWith {m : Type → Type} [Monad m] (pass : List Char → m (List Char))
    (limit : Limit) (text : String) : m (Except ExpansionError (List Char)) := do
  match ← settleWith pass [text.toList] limit.further (← pass text.toList) with
  | .stable result => return .ok result
  | .revisited => return .error (.cyclic text)
  | .unfinished =>
      match limit with
      | .incomparable type => return .error (.incomparableLimit type)
      | _ => return .error (.tooDeep limit text)

/-- A pass that writes down which text it goes over. -/
def noted (pass : List Char → List Char) (text : List Char) :
    StateM (List (List Char)) (List Char) := do
  modify (· ++ [text])
  return pass text

theorem run_noted_bind {α : Type} (pass : List Char → List Char) (text : List Char)
    (next : List Char → StateM (List (List Char)) α) (before : List (List Char)) :
    (noted pass text >>= next).run before = (next (pass text)).run (before ++ [text]) := rfl

/-- The texts that passes are made over are iterates, from the first one on. -/
theorem run_settleWith (pass : List Char → List Char) (seen : List (List Char)) (further : Nat)
    (result : List Char) (before : List (List Char)) :
    ∃ count ≤ further, (settleWith (noted pass) seen further result).run before =
      (settle pass seen further result, before ++ (List.range count).map (pass^[·] result)) := by
  induction further generalizing seen result before with
  | zero =>
      refine ⟨0, le_rfl, ?_⟩
      unfold settleWith settle
      simp only [List.range_zero, List.map_nil, List.append_nil]
      split <;> rfl
  | succ further induction =>
      have once : before ++ [result] = before ++ (List.range 1).map (pass^[·] result) := rfl
      unfold settleWith settle
      split
      · exact ⟨0, by omega, by rw [List.range_zero, List.map_nil, List.append_nil]; rfl⟩
      · simp only [run_noted_bind]
        split
        · exact ⟨1, by omega, by rw [← once]; rfl⟩
        · split
          · exact ⟨1, by omega, by rw [← once]; rfl⟩
          · rcases induction (result :: seen) (pass result) (before ++ [result]) with
              ⟨count, bound, ran⟩
            refine ⟨count + 1, by omega, ?_⟩
            rw [ran, List.range_succ_eq_map, List.map_cons, List.map_map, List.append_assoc]
            rfl

/-- An expansion makes a first pass, and then no more passes than its limit allows. -/
theorem run_expandVariablesWith (bindings : Variables) (limit : Limit) (text : String) :
    ∃ count ≤ 1 + limit.further,
      (expandVariablesWith (noted bindings.expandOnce) limit text).run [] =
        (bindings.expandVariables limit text,
          (List.range count).map (bindings.expandOnce^[·] text.toList)) := by
  rcases run_settleWith bindings.expandOnce [text.toList] limit.further
    (bindings.expandOnce text.toList) [text.toList] with ⟨count, bound, ran⟩
  refine ⟨count + 1, by omega, ?_⟩
  unfold expandVariablesWith expandVariables
  rw [run_noted_bind, List.nil_append, StateT.run_bind, ran]
  rw [List.range_succ_eq_map, List.map_cons, List.map_map]
  generalize settle _ _ _ _ = settled
  cases settled with
  | stable | revisited => rfl
  | unfinished => cases limit <;> rfl

end Noting

/-! ## How expansions end -/

/-- The end of an expansion of a text that may take `depth` passes. -/
def endOf (depth : Int) (text : String) : Settled → Except ExpansionError (List Char)
  | .stable result => .ok result
  | .revisited => .error (.cyclic text)
  | .unfinished => .error (.tooDeep (.passes depth) text)

theorem expandVariables_passes (bindings : Variables) (depth : Int) (text : String) :
    bindings.expandVariables (.passes depth) text =
      endOf depth text (settle bindings.expandOnce [text.toList] (Limit.passes depth).further
        (bindings.expandOnce text.toList)) := by
  unfold expandVariables
  split <;> simp_all [endOf]

theorem passes_eq_max (depth : Int) : 1 + (Limit.passes depth).further = (max 1 depth).toNat := by
  simp only [Limit.further, Limit.bound]
  omega

theorem exists_iterate_of_ok {bindings : Variables} {depth : Int} {text : String}
    {reached : List Char} (ended : bindings.expandVariables (.passes depth) text = .ok reached) :
    bindings.expandOnce reached = reached ∧
      ∃ passes, bindings.expandOnce^[passes] text.toList = reached := by
  have justified := expansion_justified bindings.expandOnce_idle text.toList
    (Limit.passes depth).further
  rw [expandVariables_passes] at ended
  generalize settle _ _ _ _ = settled at justified ended
  cases settled with
  | stable result =>
      cases ended
      exact justified
  | revisited | unfinished => cases ended

/-- If passes come to a text that they leave as it is, so does every expansion that may
take more passes than that. -/
theorem expandVariables_of_fixed {bindings : Variables} {text : String} {passes : Nat}
    (fixed : bindings.expandOnce (bindings.expandOnce^[passes] text.toList) =
      bindings.expandOnce^[passes] text.toList) (depth : Int) :
    bindings.expandVariables (.passes depth) text = .ok (bindings.expandOnce^[passes] text.toList) ∨
      depth ≤ passes ∧
        bindings.expandVariables (.passes depth) text = .error (.tooDeep (.passes depth) text) := by
  rw [expandVariables_passes]
  rcases settle_of_fixed bindings.expandOnce_idle (Limit.passes depth).further fixed with
    settled | ⟨settled, late⟩
  · rw [settled]
    exact .inl rfl
  · rw [settled]
    rw [passes_eq_max] at late
    exact .inr ⟨by omega, rfl⟩

theorem expand_of_fixed (bindings : Variables) (limit : Limit) {text : List Char}
    (fixed : bindings.expandOnce text = text) :
    bindings.expand [] limit (String.ofList text) = .ok (String.ofList text) := by
  have settled : settle bindings.expandOnce [text] limit.further text = .stable text :=
    settle_of_done (.inr List.mem_cons_self)
  unfold expand expandVariables
  rw [String.toList_ofList, fixed, settled]
  rfl

/-- An expansion that may take `depth` passes, by the iterates of the pass: it makes no
further passes, ends at a fixpoint, finds a cycle only where an iterate comes back, and is
too deep only if all iterates up to the last differ and there is still something to expand. -/
theorem expand_exits (bindings : Variables) (host : List (String × String)) (depth : Int)
    (text : String) :
    let iterate := (bindings.expandOnce^[·] text.toList)
    let last := (max 1 depth).toNat
    (∃ count ≤ last, (expandVariablesWith (noted bindings.expandOnce) (.passes depth) text).run [] =
      (bindings.expandVariables (.passes depth) text, (List.range count).map iterate)) ∧
    match bindings.expand host (.passes depth) text with
    | .ok result =>
        ∃ reached, bindings.expandVariables (.passes depth) text = .ok reached ∧
          result = String.ofList (expandHost host reached) ∧
          (∃ count, reached = iterate count) ∧ bindings.expandOnce reached = reached ∧
          ∀ limit, bindings.expand [] limit (String.ofList reached) = .ok (String.ofList reached)
    | .error (.cyclic _) => ∃ k, ∃ j < k, iterate (k + 1) = iterate j
    | .error (.tooDeep _ _) =>
        (∀ i j, i < j → j ≤ last → iterate i ≠ iterate j) ∧ referenceStart <:+: iterate last
    | .error (.incomparableLimit _) => False := by
  intro iterate last
  refine ⟨?_, ?_⟩
  · simpa only [passes_eq_max] using run_expandVariablesWith bindings (.passes depth) text
  · have justified := expansion_justified bindings.expandOnce_idle text.toList
      (Limit.passes depth).further
    rw [passes_eq_max] at justified
    have ended := expandVariables_passes bindings depth text
    rw [expand]
    rw [ended]
    generalize settle _ _ _ _ = settled at justified
    cases settled with
    | stable result =>
        rcases justified with ⟨fixed, count, reached⟩
        exact ⟨result, rfl, rfl, ⟨count, reached.symm⟩, fixed,
          fun limit => bindings.expand_of_fixed limit fixed⟩
    | revisited =>
        rcases justified with ⟨k, _, j, before, back⟩
        exact ⟨k, j, before, back⟩
    | unfinished => exact justified

end Runbook.Variables
