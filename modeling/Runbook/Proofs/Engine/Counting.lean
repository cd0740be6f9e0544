import Runbook.Proofs.Engine.Unrolling
import Runbook.Proofs.Number.Whole
import Mathlib.Data.Rat.Floor

/-! # Counting loops

A loop over numbers adds up doubles. Between whole numbers that doubles count without a gap it
counts as whole numbers do: from the lower bound, in steps, and to the last number below the
upper bound.
-/

namespace Runbook

open Double (wholeBound)
open Script (Instruction)

namespace Engine

/-! ## Counted numbers -/

/-- How many numbers there are from a lower bound, in steps, below an upper bound. -/
def roundCount (lower upper step : Int) : Nat := ⌈((upper - lower : Int) : ℚ) / step⌉.toNat

/-- Numbers from a lower bound, in steps, in decimal digits. -/
def counted (lower step : Int) (count : Nat) : List String :=
  (List.range count).map fun k : Nat => toString (lower + k * step)

theorem lt_roundCount_iff {lower upper step : Int} (positive : 0 < step) (k : Nat) :
    k < roundCount lower upper step ↔ lower + k * step < upper := by
  have divisor : (0 : ℚ) < step := Int.cast_pos.mpr positive
  have integral : (((k : Int) : ℚ) * step) = ((k * step : Int) : ℚ) := by rw [Int.cast_mul]
  rw [roundCount, Int.lt_toNat, Int.lt_ceil, lt_div_iff₀ divisor, integral, Int.cast_lt]
  omega

theorem length_counted (lower step : Int) (count : Nat) :
    (counted lower step count).length = count := by
  rw [counted, List.length_map, List.length_range]

theorem counted_succ (lower step : Int) (count : Nat) :
    counted lower step (count + 1) = toString lower :: counted (lower + step) step count := by
  have shifted (k : Nat) : lower + (k + 1 : Nat) * step = lower + step + k * step := by
    rw [Nat.cast_add, Nat.cast_one]
    ring
  rw [counted, List.range_succ_eq_map, List.map_cons, List.map_map, counted, Nat.cast_zero,
    zero_mul, add_zero]
  exact congrArg _ (List.map_congr_left fun k _ => congrArg toString (shifted k))

section Counting

variable {current high stride : Double} {upper step next : Int}

theorem Supply.next?_counted (reached : (current + stride).integer? = some next)
    (top : high.integer? = some upper) :
    (Supply.counted current high stride).next? =
      if next < upper then some (toString next, .counted (current + stride) high stride)
      else none := by
  simp only [Supply.next?, Double.lt_iff_of_integer? reached top,
    Double.writeResult_of_integer? reached]

section Growing

variable (grows : stride.integer? = some step)
include grows

theorem integer?_advance (behind : current.integer? = some (next - step))
    (small : next.natAbs ≤ wholeBound) : (current + stride).integer? = some next := by
  have sum := Double.integer?_add behind grows
  rw [sub_add_cancel] at sum
  exact sum small

/-- Doubles that stay exact are supplied as the whole numbers below the bound, and no others. -/
theorem Supply.yields_counted (top : high.integer? = some upper) {count : Nat}
    (behind : current.integer? = some (next - step))
    (below : ∀ k : Nat, k < count ↔ next + k * step < upper)
    (small : ∀ k : Nat, k ≤ count → (next + k * step).natAbs ≤ wholeBound) :
    (Supply.counted current high stride).Yields (Engine.counted next step count) := by
  induction count generalizing current next with
  | zero =>
      have ended : ¬next < upper := by simpa using below 0
      have reached := integer?_advance grows behind (by simpa using small 0 le_rfl)
      exact .nil (by rw [next?_counted reached top, if_neg ended])
  | succ count induction =>
      have goesOn : next < upper := by simpa using below 0
      have reached := integer?_advance grows behind (by simpa using small 0 (Nat.zero_le _))
      have shifted (k : Nat) : next + step + k * step = next + (k + 1 : Nat) * step := by
        rw [Nat.cast_add, Nat.cast_one]
        ring
      rw [counted_succ]
      refine .cons (by rw [next?_counted reached top, if_pos goesOn]) (induction ?_ ?_ ?_)
      · rwa [add_sub_cancel_right]
      · intro k
        rw [shifted, ← below, Nat.add_lt_add_iff_right]
      · intro k within
        rw [shifted]
        exact small _ (Nat.succ_le_succ within)

end Growing

/-- The numbers of a range. -/
theorem Supply.yields_range {low : Double} {lower : Int} (bottom : low.integer? = some lower)
    (top : high.integer? = some upper) (grows : stride.integer? = some step) (positive : 1 ≤ step)
    (lowerSmall : lower.natAbs + step ≤ wholeBound)
    (upperSmall : upper.natAbs + step ≤ wholeBound) :
    (Supply.range low high stride).Yields
      (Engine.counted lower step (roundCount lower upper step)) := by
  refine yields_counted grows top ?_ (lt_roundCount_iff positive) ?_
  · exact Double.integer?_sub bottom grows (by omega)
  · intro k within
    cases k with
    | zero =>
        rw [Nat.cast_zero, zero_mul, add_zero]
        omega
    | succ k =>
        have last := (lt_roundCount_iff positive k).mp within
        have ahead : 0 ≤ k * step := by positivity
        rw [Nat.cast_add, Nat.cast_one, add_mul, one_mul]
        omega

end Counting

/-! ## Iterations -/

/-- Go through values. Each is stored and announced before the block is run. A block that fails
ends the run, and so does a request to stop. -/
def iterate (surroundings : Surroundings) (command : Command) (settings : Options.Settings)
    (part : Run Bool) : List String → Run Ending
  | [] => return .done
  | value :: rest => do
      if ← Run.isStopped then
        Run.record .info s!"{command.name} stopped"
        return .done
      else
        Run.setVariable (settings.text "dest") (.scalar value)
        echo surroundings (settings.isOn "verbose") s!"[{labelOf command}] {value}"
        if ← part then iterate surroundings command settings part rest else return .failed []

/-- With enough fuel, a loop goes through the values that it is supplied with. -/
theorem loop_eq_iterate (run : Runner) (surroundings : Surroundings) (command : Command)
    (settings : Options.Settings) (block : List Instruction) {supply : Supply}
    {values : List String} (yields : supply.Yields values) {fuel : Nat}
    (enough : values.length < fuel) :
    loop run surroundings command settings block fuel supply =
      iterate surroundings command settings (Run.inInnerFrame
        (run surroundings (settings.isOn "verbose" || surroundings.verbose) block)) values := by
  induction yields generalizing fuel with
  | nil ended =>
      cases fuel with
      | zero => contradiction
      | succ fuel => rw [loop, ended, iterate]
  | cons goesOn yields induction =>
      cases fuel with
      | zero => contradiction
      | succ fuel =>
          rw [loop, goesOn, iterate]
          simp only [induction (Nat.lt_of_succ_lt_succ enough)]

/-! ## The command -/

theorem supplyOf_forRange {settings : Options.Settings}
    (accepted : (settings.number "step").le (.ofNat 0) = false) :
    supplyOf .forRange settings = pure (.ok
      (.range (settings.number "lower") (settings.number "upper") (settings.number "step"))) := by
  simp only [supplyOf, beq_self_eq_true, if_true, accepted, Bool.false_eq_true, if_false]

/-- A count between whole numbers, with steps of at least one, goes through all of them below the
upper bound and ends there, whatever the block does. -/
theorem execute_counts (run : Runner) (surroundings : Surroundings) {setup : Setup}
    {grammar : Options.Grammar} {settings : Options.Settings} {lower upper step : Int}
    (counts : setup.command = .forRange) (grammatical : setup.command.grammar? = some grammar)
    (read : Options.read grammar setup.options = .ok settings)
    (bottom : (settings.number "lower").integer? = some lower)
    (top : (settings.number "upper").integer? = some upper)
    (grows : (settings.number "step").integer? = some step) (positive : 1 ≤ step)
    (lowerSmall : lower.natAbs + step ≤ wholeBound) (upperSmall : upper.natAbs + step ≤ wholeBound)
    (block : List Instruction) :
    (∀ k : Nat, k < roundCount lower upper step ↔ lower + k * step < upper) ∧
      ∀ fuel, roundCount lower upper step < fuel →
        execute run fuel surroundings setup (some block) =
          iterate surroundings .forRange settings (Run.inInnerFrame
              (run surroundings (settings.isOn "verbose" || surroundings.verbose) block))
            (counted lower step (roundCount lower upper step)) := by
  refine ⟨lt_roundCount_iff positive, fun fuel enough => ?_⟩
  have zero : (Double.ofNat 0).integer? = some 0 := Double.integer?_zero false
  have accepted : (settings.number "step").le (.ofNat 0) = false := by
    rw [Bool.eq_false_iff, Ne, Double.le_iff_of_integer? grows zero]
    omega
  have yields := Supply.yields_range bottom top grows positive lowerSmall upperSmall
  have longer : (counted lower step (roundCount lower upper step)).length < fuel := by
    rwa [length_counted]
  rw [← loop_eq_iterate run surroundings .forRange settings block yields longer, execute,
    readOptions_eq grammatical read, pure_bind]
  dsimp only
  rw [counts, perform, runLoop, supplyOf_forRange accepted, pure_bind]

def countingSetup : Setup :=
  ⟨.forRange, none, [], ["--from", "-3", "--to", "5", "--step", "4", "--dest", "i"]⟩

def countingSettings : Options.Settings :=
  ⟨[("lower", .number (.ofInt (-3))), ("upper", .number (.ofInt 5)), ("step", .number (.ofInt 4)),
    ("dest", .text "i"), ("verbose", .switch false)]⟩

def countingBlock : List Instruction := [.line "echo --message ${i}"]

/-- The upper bound is reached but left out. -/
theorem execute_counts_to_bound :
    execute (runBlock 3) 3 bareSurroundings countingSetup (some countingBlock) =
      iterate bareSurroundings .forRange countingSettings
        (Run.inInnerFrame (runBlock 3 bareSurroundings false countingBlock)) ["-3", "1"] := by
  have count : roundCount (-3) 5 4 = 2 := by decide +kernel
  have low : (countingSettings.number "lower").integer? = some (-3) := rfl
  have high : (countingSettings.number "upper").integer? = some 5 := rfl
  have stride : (countingSettings.number "step").integer? = some 4 := rfl
  have executed := (execute_counts (runBlock 3) bareSurroundings (rfl : countingSetup.command = _)
    rfl rfl low high stride (by decide) (by decide) (by decide) countingBlock).2 3
  rw [count] at executed
  exact executed (by decide)

end Engine

end Runbook
