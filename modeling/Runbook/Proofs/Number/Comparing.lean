import Runbook.Number.Arithmetic
import Mathlib.Algebra.Order.Ring.Int
import Mathlib.Tactic.Ring

/-! # Comparing doubles

Two finite doubles are compared in units of the smaller of their exponents. Any smaller
unit would do as well, so that equality carries over from one double to the next.
-/

namespace Runbook

namespace Number

theorem powerOfTwo_add (first second : Nat) :
    powerOfTwo (first + second) = powerOfTwo first * powerOfTwo second :=
  Nat.pow_add 2 first second

@[simp] theorem powerOfTwo_zero : powerOfTwo 0 = 1 := rfl

theorem powerOfTwo_pos (exponent : Nat) : 0 < powerOfTwo exponent := Nat.two_pow_pos exponent

end Number

namespace Double

open Number (powerOfTwo powerOfTwo_add powerOfTwo_pos)

/-- A smaller unit makes for more units. -/
theorem signedUnits_of_le (negative : Bool) (mantissa : Nat) {exponent unit lower : Int}
    (below : lower ≤ unit) (within : unit ≤ exponent) :
    signedUnits negative mantissa exponent lower =
      signedUnits negative mantissa exponent unit * powerOfTwo (unit - lower).toNat := by
  have parts : (exponent - lower).toNat = (exponent - unit).toNat + (unit - lower).toNat := by
    omega
  simp only [signedUnits, parts, powerOfTwo_add, Nat.cast_mul]
  cases negative
  · simp only [Bool.false_eq_true, if_false]
    ring
  · simp only [if_true]
    ring

/-- Two finite doubles may be compared in any unit that is small enough for both. -/
theorem eq_finite_iff {s t : Bool} {m n : Nat} {e f unit : Int} (small : unit ≤ min e f) :
    eq (.finite s m e) (.finite t n f) = true ↔
      signedUnits s m e unit = signedUnits t n f unit := by
  have positive : (powerOfTwo (min e f - unit).toNat : Int) ≠ 0 :=
    Int.natCast_ne_zero.mpr (powerOfTwo_pos _).ne'
  rw [signedUnits_of_le s m small (min_le_left e f),
    signedUnits_of_le t n small (min_le_right e f), mul_left_inj' positive]
  exact beq_iff_eq

theorem lt_finite_iff {s t : Bool} {m n : Nat} {e f unit : Int} (small : unit ≤ min e f) :
    lt (.finite s m e) (.finite t n f) = true ↔
      signedUnits s m e unit < signedUnits t n f unit := by
  have positive : (0 : Int) < powerOfTwo (min e f - unit).toNat :=
    Int.natCast_pos.mpr (powerOfTwo_pos _)
  rw [signedUnits_of_le s m small (min_le_left e f),
    signedUnits_of_le t n small (min_le_right e f), mul_lt_mul_iff_left₀ positive]
  exact decide_eq_true_iff

theorem eq_symm (x y : Double) : x.eq y = y.eq x := by
  cases x with
  | finite s m e =>
      cases y with
      | finite t n f =>
          rw [Bool.eq_iff_iff, eq_finite_iff le_rfl, eq_finite_iff (min_comm e f).le, eq_comm]
      | infinite | notANumber => rfl
  | infinite s =>
      cases y with
      | infinite t => exact Bool.beq_comm
      | finite | notANumber => rfl
  | notANumber => cases y <;> rfl

theorem eq_trans {x y z : Double} (first : x.eq y = true) (second : y.eq z = true) :
    x.eq z = true := by
  cases x with
  | finite s m e =>
      cases y with
      | finite t n f =>
          cases z with
          | finite r k g =>
              have outer : min (min e f) g ≤ min e g := by omega
              have right : min (min e f) g ≤ min f g := by omega
              rw [eq_finite_iff (min_le_left _ _)] at first
              rw [eq_finite_iff right] at second
              rw [eq_finite_iff outer]
              exact first.trans second
          | infinite | notANumber => cases second
      | infinite | notANumber => cases first
  | infinite s =>
      cases y with
      | infinite t =>
          cases z with
          | infinite r => exact beq_iff_eq.mpr ((beq_iff_eq.mp first).trans (beq_iff_eq.mp second))
          | finite | notANumber => cases second
      | finite | notANumber => cases first
  | notANumber => cases y <;> cases first

end Double

end Runbook
