import Runbook.Proofs.Engine.Counting
import Runbook.Proofs.Number.Rounding

/-! # Absorbed steps

A loop over numbers adds its step to the last number for as long as the sum lies below the upper
bound. Far from zero doubles lie so far apart that a small step is absorbed: the sum is rounded
back to the number itself, and the loop goes on with this number forever. A range ends exactly if
this happens to no double on the way, and then its numbers increase strictly.
-/

namespace Runbook

open Double (Representable ticks lt_iff_ticks)
open Number (powerOfTwo)
open Script (Instruction)

namespace Engine

/-! ## Numbers on the way -/

/-- No double is its own sum with the step, from one step before the lower bound up to the upper
bound. -/
def NeverAbsorbed (lower upper step : Double) : Prop :=
  ∀ x : Double, Representable x → x.lt (lower - step) = false → x.lt upper = true →
    x.lt (x + step) = true

/-- A supply comes to its values in no more than one way. -/
theorem Supply.Yields.unique {supply : Supply} {values others : List String}
    (yields : supply.Yields values) (yieldsToo : supply.Yields others) : values = others := by
  induction yields generalizing others with
  | nil ended =>
      cases yieldsToo with
      | nil => rfl
      | cons goesOn => rw [ended] at goesOn; cases goesOn
  | cons goesOn yields induction =>
      cases yieldsToo with
      | nil ended => rw [goesOn] at ended; cases ended
      | cons goesOnToo yieldsToo =>
          rw [goesOn] at goesOnToo
          cases goesOnToo
          rw [induction yieldsToo]

section Range

variable {upper step : Double} (upperRepresentable : Representable upper)
  (representable : Representable step) (finite : step.isFinite = true)
include upperRepresentable representable finite

section Absorbing

variable {x : Double} (absorbing : Representable x) (below : x.lt upper = true)
  (absorbed : ¬x.lt (x + step) = true)
include absorbing below absorbed

/-- From behind an absorbing double, one step does not lead past it. -/
theorem stays_behind {current : Double} (behind : Representable current)
    (less : current.ticks ≤ x.ticks) :
    Representable (current + step) ∧ (current + step).ticks ≤ x.ticks ∧
      (current + step).lt upper = true := by
  have next := Double.representable_add representable finite behind
  have still := Double.representable_add representable finite absorbing
  rw [lt_iff_ticks absorbing upperRepresentable] at below
  rw [lt_iff_ticks absorbing still, not_lt] at absorbed
  have within := (Double.ticks_add_mono representable finite behind absorbing less).trans absorbed
  exact ⟨next, within, (lt_iff_ticks next upperRepresentable).mpr (within.trans_lt below)⟩

theorem not_yields_of_absorbed {current : Double} (behind : Representable current)
    (less : current.ticks ≤ x.ticks) (values : List String) :
    ¬(Supply.counted current upper step).Yields values := by
  intro yields
  generalize supplied : Supply.counted current upper step = supply at yields
  induction yields generalizing current with
  | nil ended =>
      rcases stays_behind upperRepresentable representable finite absorbing below absorbed behind
        less with ⟨-, -, goesOn⟩
      simp [← supplied, Supply.next?, goesOn] at ended
  | cons supplies yields induction =>
      rcases stays_behind upperRepresentable representable finite absorbing below absorbed behind
        less with ⟨next, within, goesOn⟩
      simp only [← supplied, Supply.next?, goesOn, if_true, Option.some.injEq, Prod.mk.injEq]
        at supplies
      exact induction next within supplies.2

end Absorbing

/-- Numbers that change with every step reach the upper bound. -/
theorem exists_numbers (positive : 0 ≤ step.ticks) {start : Int}
    (never : ∀ x : Double, Representable x → start ≤ x.ticks → x.ticks < upper.ticks →
      x.ticks < (x + step).ticks)
    {current : Double} (behind : Representable current) (started : start ≤ current.ticks) :
    ∃ numbers : List Double,
      (Supply.counted current upper step).Yields (numbers.map Number.writeResult) ∧
        (∀ x ∈ numbers, Representable x ∧ current.ticks < x.ticks) ∧
          numbers.Pairwise fun x y => x.lt y = true := by
  induction room : (upper.ticks - current.ticks).toNat using Nat.strong_induction_on
    generalizing current with
  | _ room induction =>
      subst room
      have next := Double.representable_add representable finite behind
      have further := Double.ticks_le_add representable finite behind positive
      by_cases goesOn : (current + step).lt upper = true
      · have below := (lt_iff_ticks next upperRepresentable).mp goesOn
        have grows := never current behind started (by omega)
        rcases induction _ (by omega) next (by omega) rfl with ⟨numbers, yields, above, increasing⟩
        refine ⟨(current + step) :: numbers, .cons (by rw [Supply.next?, if_pos goesOn]) yields, ?_,
          ?_⟩
        · intro x member
          rcases List.mem_cons.mp member with rfl | member
          · exact ⟨next, grows⟩
          · exact ⟨(above x member).1, grows.trans (above x member).2⟩
        · refine .cons (fun x member => ?_) increasing
          exact (lt_iff_ticks next (above x member).1).mpr (above x member).2
      · exact ⟨[], .nil (by rw [Supply.next?, if_neg goesOn]), by simp, .nil⟩

end Range

/-! ## Loops that end -/

/-- A part of a run that always succeeds, and never makes anything stop. -/
def Obliging (part : Run Bool) : Prop :=
  ∀ state, state.isStopped = false →
    ∃ final, part.outcome state = (some (.ok true), final) ∧ final.isStopped = false

theorem outcome_echo {surroundings : Surroundings} (unwatched : surroundings.Unwatched)
    (wanted : Bool) (text : String) (state : State) :
    ∃ final, (echo surroundings wanted text).outcome state = (some (.ok ()), final) ∧
      final.isStopped = state.isStopped := by
  cases wanted with
  | false => exact ⟨state, rfl, rfl⟩
  | true =>
      refine ⟨state.note (.printed false text), ?_, rfl⟩
      simp only [echo, if_true, Surroundings.remark, Surroundings.print, Run.outcome_modify,
        unwatched _, Bool.false_eq_true, if_false]

section Loops

variable {run : Runner} {surroundings : Surroundings} {settings : Options.Settings}
  {block : List Instruction} (unwatched : surroundings.Unwatched)
  (obliging : Obliging (Run.inInnerFrame
    (run surroundings (settings.isOn "verbose" || surroundings.verbose) block)))
include unwatched obliging

/-- A round of a loop leads to the next one. -/
theorem exists_outcome_round (command : Command) {supply rest : Supply} {value : String}
    (supplies : supply.next? = some (value, rest)) {state : State}
    (goesOn : state.isStopped = false) :
    ∃ after, after.isStopped = false ∧ ∀ fuel,
      (loop run surroundings command settings block (fuel + 1) supply).outcome state =
        (loop run surroundings command settings block fuel rest).outcome after := by
  let bound := { state with
    bindings := state.bindings.set (settings.text "dest") (.scalar value) }
  rcases outcome_echo unwatched (settings.isOn "verbose") s!"[{labelOf command}] {value}" bound with
    ⟨shown, echoed, unchanged⟩
  rcases obliging shown (unchanged.trans goesOn) with ⟨after, ran, goesOnToo⟩
  refine ⟨after, goesOnToo, fun fuel => ?_⟩
  have stored : (Run.setVariable (settings.text "dest") (.scalar value)).outcome state =
      (some (.ok ()), bound) := rfl
  simp only [loop, supplies, Run.outcome_bind, Run.outcome_isStopped, Run.proceed, goesOn,
    Bool.false_eq_true, if_false, stored, echoed, ran, if_true]

/-- A loop over an obliging block ends exactly if its supply does. -/
theorem loop_ends_iff (command : Command) (supply : Supply) {state : State}
    (goesOn : state.isStopped = false) :
    (∃ fuel result final, (loop run surroundings command settings block fuel supply).outcome state =
        (some result, final)) ↔ ∃ values, supply.Yields values := by
  constructor
  · rintro ⟨fuel, result, final, ended⟩
    induction fuel generalizing supply state with
    | zero => cases ended
    | succ fuel induction =>
        cases supplies : supply.next? with
        | none => exact ⟨[], .nil supplies⟩
        | some supplied =>
            rcases exists_outcome_round unwatched obliging command supplies goesOn with
              ⟨after, goesOnToo, same⟩
            rw [same] at ended
            rcases induction supplied.2 goesOnToo ended with ⟨values, yields⟩
            exact ⟨_, .cons supplies yields⟩
  · rintro ⟨values, yields⟩
    induction yields generalizing state with
    | nil ended => exact ⟨1, .ok .done, state, by rw [loop, ended]; rfl⟩
    | cons supplies yields induction =>
        rcases exists_outcome_round unwatched obliging command supplies goesOn with
          ⟨after, goesOnToo, same⟩
        rcases induction goesOnToo with ⟨fuel, result, final, ended⟩
        exact ⟨fuel + 1, result, final, (same fuel).trans ended⟩

end Loops

/-! ## Ranges that end -/

section Ends

variable {lower upper step : Double} (lowerRepresentable : Representable lower)
  (upperRepresentable : Representable upper) (representable : Representable step)
  (finite : step.isFinite = true)

include lowerRepresentable representable finite in
theorem representable_start : Representable (lower - step) := by
  have opposite : (-step).isFinite = true := by
    cases representable with
    | finite => rfl
    | infinite => cases finite
  exact Double.representable_add (Double.representable_neg representable) opposite lowerRepresentable

variable (accepted : step.le (.ofNat 0) = false)

include representable accepted in
theorem ticks_pos_of_accepted : 0 < step.ticks := by
  have zero : Representable (.ofNat 0) := Double.representable_zero false
  have none : (Double.ofNat 0).ticks = 0 := Double.ticks_zero false
  rw [← Bool.not_eq_true, Double.le_iff_ticks representable zero, none] at accepted
  omega

include lowerRepresentable upperRepresentable representable finite accepted

/-- Where no step is absorbed, the numbers increase up to the upper bound. -/
theorem exists_numbers_of_neverAbsorbed (never : NeverAbsorbed lower upper step) :
    ∃ numbers : List Double,
      (Supply.range lower upper step).Yields (numbers.map Number.writeResult) ∧
        numbers.Pairwise fun x y => x.lt y = true := by
  have start := representable_start lowerRepresentable representable finite
  have positive := ticks_pos_of_accepted representable accepted
  have grows (x : Double) (isRepresentable : Representable x)
      (above : (lower - step).ticks ≤ x.ticks) (below : x.ticks < upper.ticks) :
      x.ticks < (x + step).ticks := by
    have later := Double.representable_add representable finite isRepresentable
    rw [← not_lt, ← lt_iff_ticks isRepresentable start, Bool.not_eq_true] at above
    rw [← lt_iff_ticks isRepresentable upperRepresentable] at below
    exact (lt_iff_ticks isRepresentable later).mp (never x isRepresentable above below)
  rcases exists_numbers upperRepresentable representable finite positive.le grows start le_rfl with
    ⟨numbers, yields, -, increasing⟩
  exact ⟨numbers, yields, increasing⟩

omit accepted in
theorem neverAbsorbed_of_yields {values : List String}
    (yields : (Supply.range lower upper step).Yields values) : NeverAbsorbed lower upper step := by
  intro x isRepresentable above below
  by_contra absorbed
  have start := representable_start lowerRepresentable representable finite
  rw [← Bool.not_eq_true, lt_iff_ticks isRepresentable start, not_lt] at above
  exact not_yields_of_absorbed upperRepresentable representable finite isRepresentable below absorbed
    start above values yields

/-- A range of numbers ends exactly if its step is absorbed by no double on the way. Then its
numbers increase strictly. The loop over it ends with it, if its block does nothing but succeed. -/
theorem range_ends_iff_never_absorbed :
    ((∃ values, (Supply.range lower upper step).Yields values) ↔
        NeverAbsorbed lower upper step) ∧
      (∀ values, (Supply.range lower upper step).Yields values → ∃ numbers : List Double,
        values = numbers.map Number.writeResult ∧
          numbers.Pairwise fun x y => x.lt y = true) ∧
      ∀ (run : Runner) (surroundings : Surroundings) (settings : Options.Settings)
        (block : List Instruction) (state : State), surroundings.Unwatched →
        Obliging (Run.inInnerFrame
          (run surroundings (settings.isOn "verbose" || surroundings.verbose) block)) →
        state.isStopped = false →
        ((∃ fuel result final, (loop run surroundings .forRange settings block fuel
            (Supply.range lower upper step)).outcome state = (some result, final)) ↔
          NeverAbsorbed lower upper step) := by
  have ends : (∃ values, (Supply.range lower upper step).Yields values) ↔
      NeverAbsorbed lower upper step := by
    constructor
    · rintro ⟨values, yields⟩
      exact neverAbsorbed_of_yields lowerRepresentable upperRepresentable representable finite yields
    · intro never
      rcases exists_numbers_of_neverAbsorbed lowerRepresentable upperRepresentable representable
        finite accepted never with ⟨numbers, yields, -⟩
      exact ⟨_, yields⟩
  refine ⟨ends, fun values yields => ?_, fun run surroundings settings block state unwatched
    obliging goesOn => (loop_ends_iff unwatched obliging .forRange _ goesOn).trans ends⟩
  rcases exists_numbers_of_neverAbsorbed lowerRepresentable upperRepresentable representable finite
    accepted (ends.mp ⟨values, yields⟩) with ⟨numbers, yieldsToo, increasing⟩
  exact ⟨numbers, yields.unique yieldsToo, increasing⟩

/-- Within so many steps from zero, doubles lie no further apart than the step is long. -/
theorem neverAbsorbed_of_within (startFinite : (lower - step).isFinite = true)
    (lowerWithin : -(powerOfTwo 52 * step.ticks) ≤ (lower - step).ticks)
    (upperWithin : upper.ticks ≤ powerOfTwo 52 * step.ticks) : NeverAbsorbed lower upper step := by
  intro x isRepresentable above below
  have start := representable_start lowerRepresentable representable finite
  have positive := ticks_pos_of_accepted representable accepted
  rw [← Bool.not_eq_true, lt_iff_ticks isRepresentable start, not_lt] at above
  rw [lt_iff_ticks isRepresentable upperRepresentable] at below
  have later := Double.representable_add representable finite isRepresentable
  have least := Double.natAbs_ticks_lt start startFinite
  have most := upperRepresentable.natAbs_ticks_le
  have inside := Double.isFinite_of_natAbs_ticks_lt isRepresentable (by omega)
  rw [lt_iff_ticks isRepresentable later]
  refine Double.ticks_lt_add representable finite isRepresentable inside ?_
  by_cases near : x.ticks.natAbs.log2 - 52 = 0
  · rw [near, Number.powerOfTwo_zero]
    exact positive
  · have nonzero : x.ticks.natAbs ≠ 0 := fun none => near (by rw [none, Nat.log2_zero])
    have bits : 52 + (x.ticks.natAbs.log2 - 52) = x.ticks.natAbs.log2 := by omega
    have size : powerOfTwo 52 * powerOfTwo (x.ticks.natAbs.log2 - 52) ≤ x.ticks.natAbs := by
      rw [← Number.powerOfTwo_add, bits]
      exact Nat.log2_self_le nonzero
    have scale : (0 : Int) < powerOfTwo 52 := Int.natCast_pos.mpr (Number.powerOfTwo_pos 52)
    have within : (x.ticks.natAbs : Int) ≤ powerOfTwo 52 * step.ticks := by omega
    exact le_of_mul_le_mul_left ((Int.ofNat_le.mpr size).trans within) scale

end Ends

/-! ### A step that is absorbed -/

/-- Beyond this number, only every other whole number is a double. -/
def sparseLower : Double := .ofNat 10000000000000000

def sparseUpper : Double := .ofNat 10000000000000002

theorem obliging_empty :
    Obliging (Run.inInnerFrame (runBlock 1 bareSurroundings false [])) :=
  fun state goesOn => ⟨state, rfl, goesOn⟩

/-- The first number is its own sum with the step, and the loop never gets past it. -/
theorem range_of_sparse_numbers_never_ends :
    (¬∃ values, (Supply.range sparseLower sparseUpper (.ofNat 1)).Yields values) ∧
      ¬∃ fuel result final, (loop (runBlock 1) bareSurroundings .forRange ⟨[]⟩ [] fuel
        (Supply.range sparseLower sparseUpper (.ofNat 1))).outcome listState =
          (some result, final) := by
  have lower : Representable sparseLower := .finite (by decide) (by decide) (by decide)
  have upper : Representable sparseUpper := .finite (by decide) (by decide) (by decide)
  have one : Representable (.ofNat 1) := .finite (by decide) (by decide) (by decide)
  have absorbed : ¬NeverAbsorbed sparseLower sparseUpper (.ofNat 1) := by
    intro never
    have moved := never sparseLower lower (by decide) (by decide)
    revert moved
    decide
  rcases range_ends_iff_never_absorbed lower upper one rfl (by decide +kernel) with ⟨ends, -, loops⟩
  exact ⟨mt ends.mp absorbed, mt (loops (runBlock 1) bareSurroundings ⟨[]⟩ [] listState
    (fun _ => rfl) obliging_empty rfl).mp absorbed⟩

end Engine

end Runbook
