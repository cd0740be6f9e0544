import Runbook.Number.Notation
import Runbook.Proofs.Number.Comparing
import Mathlib.Tactic.Linarith

/-! # Whole doubles

A whole number of no more than 53 bits is a double, and so is the first one beyond them. Sums,
differences and products of whole doubles are therefore exact as long as they do not go further,
and so is a double that is written as the value of a variable.
-/

namespace Runbook.Double

open Number (powerOfTwo powerOfTwo_add powerOfTwo_pos powerOfTwo_zero)

/-- Up to here every whole number is a double. -/
def wholeBound : Nat := powerOfTwo 53

/-- A number from its magnitude and its sign. -/
def signed (negative : Bool) (magnitude : Nat) : Int :=
  if negative then -(magnitude : Int) else magnitude

/-! ## Whole numbers of a unit -/

theorem powerOfTwo_dvd {least most : Nat} (le : least ≤ most) :
    powerOfTwo least ∣ powerOfTwo most :=
  Nat.pow_dvd_pow 2 le

section Units

variable {s : Bool} {m N : Nat} {e unit n : Int}

theorem natAbs_signed (s : Bool) (m : Nat) : (signed s m).natAbs = m := by
  cases s <;> simp [signed]

theorem signed_zero (s : Bool) : signed s 0 = 0 := by
  cases s <;> rfl

theorem signed_mul (s : Bool) (m factor : Nat) :
    signed s m * (factor : Int) = signed s (m * factor) := by
  cases s <;> simp [signed]

theorem signed_mul_signed (s t : Bool) (m n : Nat) :
    signed s m * signed t n = signed (s != t) (m * n) := by
  cases s <;> cases t <;> simp [signed]

theorem signed_natAbs (n : Int) : signed (decide (n < 0)) n.natAbs = n := by
  by_cases negative : n < 0
  · simp only [signed, negative, decide_true, if_true]
    omega
  · simp only [signed, negative, decide_false, Bool.false_eq_true, if_false]
    omega

theorem signedUnits_eq (s : Bool) (m : Nat) (e unit : Int) :
    signedUnits s m e unit = signed s (m * powerOfTwo (e - unit).toNat) := by
  simp [signedUnits, signed]

/-- A smaller unit makes for more units. -/
theorem units_of_le (m : Nat) {lower : Int} (below : lower ≤ unit) (within : unit ≤ e) :
    m * powerOfTwo (e - lower).toNat =
      m * powerOfTwo (e - unit).toNat * powerOfTwo (unit - lower).toNat := by
  rw [mul_assoc, ← powerOfTwo_add]
  congr 2
  omega

/-- A magnitude is whole if and only if it is as many small units as the whole number is. -/
theorem whole?_eq_some_iff (within : unit ≤ e) (below : unit ≤ 0) :
    whole? m e = some N ↔
      m * powerOfTwo (e - unit).toNat = N * powerOfTwo (-unit).toNat := by
  cases e with
  | ofNat k =>
      have parts : (Int.ofNat k - unit).toNat = k + (-unit).toNat := by
        rw [Int.ofNat_eq_natCast]
        omega
      rw [whole?, parts, powerOfTwo_add, ← mul_assoc,
        Nat.mul_left_inj (powerOfTwo_pos _).ne', Option.some.injEq]
  | negSucc p =>
      have parts : (-unit).toNat = (p + 1) + (Int.negSucc p - unit).toNat := by omega
      have positive := powerOfTwo_pos (p + 1)
      rw [parts, powerOfTwo_add (p + 1), ← mul_assoc, Nat.mul_left_inj (powerOfTwo_pos _).ne',
        whole?]
      constructor
      · intro found
        split at found
        · rename_i divides
          cases found
          exact (Nat.div_mul_cancel (Nat.dvd_of_mod_eq_zero (beq_iff_eq.mp divides))).symm
        · cases found
      · rintro rfl
        rw [Nat.mul_mod_left, Nat.mul_div_cancel _ positive]
        rfl

theorem whole?_self (N : Nat) : whole? N 0 = some N := by
  rw [whole?_eq_some_iff le_rfl le_rfl]
  rfl

theorem eq_zero_iff_of_whole? (whole : whole? m e = some N) : m = 0 ↔ N = 0 := by
  have units := (whole?_eq_some_iff (min_le_left e 0) (min_le_right e 0)).mp whole
  have zeros : m * powerOfTwo (e - min e 0).toNat = 0 ↔ N * powerOfTwo (-min e 0).toNat = 0 := by
    rw [units]
  rwa [Nat.mul_eq_zero, Nat.mul_eq_zero, or_iff_left (powerOfTwo_pos _).ne',
    or_iff_left (powerOfTwo_pos _).ne'] at zeros

theorem integer?_finite (s : Bool) (m : Nat) (e : Int) :
    integer? (.finite s m e) = (whole? m e).map (signed s) := by
  rw [integer?]
  cases whole? m e <;> rfl

/-- A double is whole if and only if it is as many small units as the whole number is. -/
theorem integer?_eq_some_iff (within : unit ≤ e) (below : unit ≤ 0) :
    integer? (.finite s m e) = some n ↔
      signedUnits s m e unit = n * powerOfTwo (-unit).toNat := by
  rw [integer?_finite, Option.map_eq_some_iff, signedUnits_eq]
  constructor
  · rintro ⟨N, whole, rfl⟩
    rw [(whole?_eq_some_iff within below).mp whole, signed_mul]
  · intro same
    have magnitudes := congrArg Int.natAbs same
    rw [natAbs_signed, Int.natAbs_mul, Int.natAbs_natCast] at magnitudes
    refine ⟨n.natAbs, (whole?_eq_some_iff within below).mpr magnitudes, ?_⟩
    have positive : (0 : Int) < powerOfTwo (-unit).toNat := Int.natCast_pos.mpr (powerOfTwo_pos _)
    rw [magnitudes, ← signed_mul, mul_left_inj' positive.ne'] at same
    exact same

theorem exists_finite_of_integer? {x : Double} (whole : x.integer? = some n) :
    ∃ s m e, x = .finite s m e := by
  cases x with
  | finite s m e => exact ⟨s, m, e, rfl⟩
  | infinite | notANumber => cases whole

end Units

/-! ## Rounding what is whole already -/

section Rounding

variable {m N : Nat} {e : Int}

theorem roundShift_of_dvd {places : Nat} (divides : powerOfTwo places ∣ m) :
    roundShift m places = m / powerOfTwo places := by
  have exact : 2 * (m % powerOfTwo places) < powerOfTwo places := by
    rw [Nat.mod_eq_zero_of_dvd divides]
    exact powerOfTwo_pos places
  rw [roundShift, if_pos exact]

theorem integer?_zero (s : Bool) : (zero s).integer? = some 0 := by
  have below : leastExponent ≤ 0 := by decide
  rw [zero, integer?_eq_some_iff le_rfl below, signedUnits_eq, Nat.zero_mul, signed_zero,
    Int.zero_mul]

theorem integer?_pack (s : Bool) (whole : whole? m e = some N) (inRange : e < greatestExponent) :
    (pack s m e).integer? = some (signed s N) := by
  rw [pack]
  by_cases full : m = powerOfTwo 53
  · subst full
    have renamed : whole? (powerOfTwo 52) (e + 1) = some N := by
      have small : min e 0 ≤ e + 1 := by omega
      have parts : (e + 1 - min e 0).toNat = 1 + (e - min e 0).toNat := by omega
      rw [whole?_eq_some_iff small (min_le_right e 0), parts, powerOfTwo_add, ← mul_assoc]
      exact (whole?_eq_some_iff (min_le_left e 0) (min_le_right e 0)).mp whole
    have fits : ¬greatestExponent < e + 1 := by omega
    have nonzero : (powerOfTwo 52 == 0) = false := by decide
    simp only [beq_self_eq_true, if_true, nonzero, Bool.false_eq_true, if_false, fits,
      integer?_finite, renamed, Option.map_some]
  · have fits : ¬greatestExponent < e := by omega
    simp only [beq_iff_eq, full, if_false, fits]
    split
    · rename_i none
      rw [integer?_zero, (eq_zero_iff_of_whole? whole).mp none]
      cases s <;> rfl
    · rw [integer?_finite, whole, Option.map_some]

/-- A mantissa that is divided or multiplied along with its exponent stands for the same. -/
theorem whole?_rescale (e target : Int) (divides : powerOfTwo (target - e).toNat ∣ m)
    (whole : whole? m e = some N) :
    whole? (m / powerOfTwo (target - e).toNat * powerOfTwo (e - target).toNat) target = some N := by
  have within : min (min e target) 0 ≤ e := by omega
  have inside : min (min e target) 0 ≤ target := by omega
  have below := min_le_right (min e target) 0
  rw [whole?_eq_some_iff within below] at whole
  rw [whole?_eq_some_iff inside below, ← whole]
  generalize min (min e target) 0 = unit at within inside
  rcases divides with ⟨quotient, rfl⟩
  rw [Nat.mul_div_cancel_left _ (powerOfTwo_pos _), mul_comm (powerOfTwo _) quotient, mul_assoc,
    mul_assoc, ← powerOfTwo_add, ← powerOfTwo_add]
  congr 2
  omega

theorem log2_le_of_whole? (nonzero : m ≠ 0) (whole : whole? m e = some N)
    (small : N ≤ wholeBound) :
    (m.log2 : Int) + e ≤ 53 ∧ ((m.log2 : Int) + e = 53 → N = wholeBound) := by
  have units := (whole?_eq_some_iff (min_le_left e 0) (min_le_right e 0)).mp whole
  have least : powerOfTwo (m.log2 + (e - min e 0).toNat) ≤ N * powerOfTwo (-min e 0).toNat := by
    rw [← units, powerOfTwo_add]
    exact Nat.mul_le_mul_right _ (Nat.log2_self_le nonzero)
  have most : N * powerOfTwo (-min e 0).toNat ≤ powerOfTwo (53 + (-min e 0).toNat) := by
    rw [powerOfTwo_add]
    exact Nat.mul_le_mul_right _ small
  have sizes := (Nat.pow_le_pow_iff_right Nat.one_lt_two).mp (least.trans most)
  refine ⟨by omega, fun full => ?_⟩
  have same : m.log2 + (e - min e 0).toNat = 53 + (-min e 0).toNat := by omega
  rw [same, powerOfTwo_add] at least
  exact small.antisymm (Nat.le_of_mul_le_mul_right least (powerOfTwo_pos _))

/-- The mantissa of a whole number ends in enough zeros to be shifted into place. -/
theorem dvd_of_whole? (nonzero : m ≠ 0) (whole : whole? m e = some N) (small : N ≤ wholeBound) :
    powerOfTwo (max (e + m.log2 - 52) leastExponent - e).toNat ∣ m := by
  rcases log2_le_of_whole? nonzero whole small with ⟨size, full⟩
  have floor : leastExponent = -1074 := rfl
  rcases lt_or_ge 0 e with positive | negative
  · have none : (max (e + m.log2 - 52) leastExponent - e).toNat = 0 := by omega
    rw [none]
    exact Nat.one_dvd m
  have shape : m * 1 = N * powerOfTwo (-e).toNat := by
    have units := (whole?_eq_some_iff le_rfl negative).mp whole
    rwa [sub_self] at units
  rw [mul_one] at shape
  by_cases largest : (m.log2 : Int) + e = 53
  · have longest : (max (e + m.log2 - 52) leastExponent - e).toNat ≤ 53 + (-e).toNat := by omega
    refine (powerOfTwo_dvd longest).trans ?_
    rw [shape, full largest, wholeBound, ← powerOfTwo_add]
  · have long : (max (e + m.log2 - 52) leastExponent - e).toNat ≤ (-e).toNat := by omega
    refine (powerOfTwo_dvd long).trans ?_
    rw [shape]
    exact Nat.dvd_mul_left _ N

/-- Whole numbers are not rounded. -/
theorem integer?_round (s : Bool) (whole : whole? m e = some N) (small : N ≤ wholeBound) :
    (round s m e).integer? = some (signed s N) := by
  rw [round]
  split
  · rename_i none
    rw [integer?_zero, (eq_zero_iff_of_whole? whole).mp (beq_iff_eq.mp none)]
    cases s <;> rfl
  · rename_i nonzero
    rw [beq_iff_eq] at nonzero
    have size := (log2_le_of_whole? nonzero whole small).1
    have divides := dvd_of_whole? nonzero whole small
    have inRange : max (e + m.log2 - 52) leastExponent < greatestExponent := by
      have floor : leastExponent = -1074 := rfl
      have top : greatestExponent = 971 := rfl
      omega
    have rescaled := integer?_pack s (whole?_rescale e _ divides whole) inRange
    dsimp only
    generalize max (e + m.log2 - 52) leastExponent = target at divides rescaled ⊢
    split
    · have none : (target - e).toNat = 0 := by omega
      rwa [none, powerOfTwo_zero, Nat.div_one] at rescaled
    · have none : (e - target).toNat = 0 := by omega
      rw [roundShift_of_dvd divides]
      rwa [none, powerOfTwo_zero, mul_one] at rescaled

/-- Units that make up a whole number are not rounded. -/
theorem integer?_ofUnits {units n lower : Int} (within : lower ≤ e) (below : lower ≤ 0)
    (same : units * powerOfTwo (e - lower).toNat = n * powerOfTwo (-lower).toNat)
    (small : n.natAbs ≤ wholeBound) (zeroNegative : Bool) :
    (ofUnits units e zeroNegative).integer? = some n := by
  have unit : (0 : Int) < powerOfTwo (e - lower).toNat := Int.natCast_pos.mpr (powerOfTwo_pos _)
  have one : (0 : Int) < powerOfTwo (-lower).toNat := Int.natCast_pos.mpr (powerOfTwo_pos _)
  rw [ofUnits]
  split
  · rename_i none
    rw [beq_iff_eq.mp none, zero_mul, eq_comm, mul_eq_zero] at same
    rw [integer?_zero, same.resolve_right one.ne']
  · have magnitudes := congrArg Int.natAbs same
    rw [Int.natAbs_mul, Int.natAbs_mul, Int.natAbs_natCast, Int.natAbs_natCast] at magnitudes
    have signs : units < 0 ↔ n < 0 :=
      calc
        units < 0 ↔ units * powerOfTwo (e - lower).toNat < 0 * powerOfTwo (e - lower).toNat :=
          (mul_lt_mul_iff_left₀ unit).symm
        _ ↔ n * powerOfTwo (-lower).toNat < 0 * powerOfTwo (-lower).toNat := by
          rw [same, zero_mul, zero_mul]
        _ ↔ n < 0 := mul_lt_mul_iff_left₀ one
    rw [integer?_round _ ((whole?_eq_some_iff within below).mpr magnitudes) small,
      decide_eq_decide.mpr signs, signed_natAbs]

end Rounding

/-! ## Arithmetic -/

section Arithmetic

variable {x y : Double} {a b : Int} (left : x.integer? = some a) (right : y.integer? = some b)

include left in
theorem integer?_neg : (-x).integer? = some (-a) := by
  rcases exists_finite_of_integer? left with ⟨s, m, e, rfl⟩
  rw [integer?_eq_some_iff (min_le_left e 0) (min_le_right e 0), signedUnits_eq] at left
  change integer? (.finite (!s) m e) = _
  rw [integer?_eq_some_iff (min_le_left e 0) (min_le_right e 0), signedUnits_eq, neg_mul, ← left]
  cases s <;> simp [signed]

include left right

theorem integer?_add (small : (a + b).natAbs ≤ wholeBound) : (x + y).integer? = some (a + b) := by
  rcases exists_finite_of_integer? left with ⟨s, m, e, rfl⟩
  rcases exists_finite_of_integer? right with ⟨t, n, f, rfl⟩
  have within : min (min e f) 0 ≤ min e f := min_le_left _ _
  have below : min (min e f) 0 ≤ 0 := min_le_right _ _
  rw [integer?_eq_some_iff (within.trans (min_le_left e f)) below,
    signedUnits_of_le s m within (min_le_left e f)] at left
  rw [integer?_eq_some_iff (within.trans (min_le_right e f)) below,
    signedUnits_of_le t n within (min_le_right e f)] at right
  refine integer?_ofUnits within below ?_ small _
  rw [add_mul, add_mul, left, right]

theorem integer?_sub (small : (a - b).natAbs ≤ wholeBound) : (x - y).integer? = some (a - b) := by
  rw [sub_eq_add_neg] at small ⊢
  exact integer?_add left (integer?_neg right) small

theorem integer?_mul (small : (a * b).natAbs ≤ wholeBound) : (x * y).integer? = some (a * b) := by
  rcases exists_finite_of_integer? left with ⟨s, m, e, rfl⟩
  rcases exists_finite_of_integer? right with ⟨t, n, f, rfl⟩
  rw [integer?_finite, Option.map_eq_some_iff] at left right
  rcases left with ⟨A, wholeLeft, rfl⟩
  rcases right with ⟨B, wholeRight, rfl⟩
  have within : min e 0 + min f 0 ≤ e + f := by omega
  have below : min e 0 + min f 0 ≤ 0 := by omega
  have whole : whole? (m * n) (e + f) = some (A * B) := by
    rw [whole?_eq_some_iff (min_le_left e 0) (min_le_right e 0)] at wholeLeft
    rw [whole?_eq_some_iff (min_le_left f 0) (min_le_right f 0)] at wholeRight
    have outer : (e + f - (min e 0 + min f 0)).toNat =
        (e - min e 0).toNat + (f - min f 0).toNat := by omega
    have inner : (-(min e 0 + min f 0)).toNat = (-min e 0).toNat + (-min f 0).toNat := by omega
    rw [whole?_eq_some_iff within below, outer, inner, powerOfTwo_add, powerOfTwo_add,
      mul_mul_mul_comm, wholeLeft, wholeRight, mul_mul_mul_comm]
  rw [signed_mul_signed, natAbs_signed] at small
  rw [signed_mul_signed]
  exact integer?_round (s != t) whole small

/-- Whole doubles are compared as the whole numbers are. -/
theorem exists_unit_of_integer? : ∃ (unit : Int) (s t : Bool) (m n : Nat) (e f scale : Int),
    x = .finite s m e ∧ y = .finite t n f ∧ unit ≤ min e f ∧ 0 < scale ∧
      signedUnits s m e unit = a * scale ∧ signedUnits t n f unit = b * scale := by
  rcases exists_finite_of_integer? left with ⟨s, m, e, rfl⟩
  rcases exists_finite_of_integer? right with ⟨t, n, f, rfl⟩
  have within : min (min e f) 0 ≤ min e f := min_le_left _ _
  have below : min (min e f) 0 ≤ 0 := min_le_right _ _
  rw [integer?_eq_some_iff (within.trans (min_le_left e f)) below] at left
  rw [integer?_eq_some_iff (within.trans (min_le_right e f)) below] at right
  exact ⟨_, s, t, m, n, e, f, _, rfl, rfl, within, Int.natCast_pos.mpr (powerOfTwo_pos _), left,
    right⟩

theorem lt_iff_of_integer? : x.lt y = true ↔ a < b := by
  rcases exists_unit_of_integer? left right with
    ⟨unit, s, t, m, n, e, f, scale, rfl, rfl, within, positive, first, second⟩
  rw [lt_finite_iff within, first, second, mul_lt_mul_iff_left₀ positive]

theorem eq_iff_of_integer? : x.eq y = true ↔ a = b := by
  rcases exists_unit_of_integer? left right with
    ⟨unit, s, t, m, n, e, f, scale, rfl, rfl, within, positive, first, second⟩
  rw [eq_finite_iff within, first, second, mul_left_inj' positive.ne']

theorem le_iff_of_integer? : x.le y = true ↔ a ≤ b := by
  rw [le, Bool.or_eq_true, lt_iff_of_integer? left right, eq_iff_of_integer? left right,
    le_iff_lt_or_eq]

end Arithmetic

/-! ## Looking at whole doubles -/

theorem isZero_iff_of_integer? {x : Double} {a : Int} (whole : x.integer? = some a) :
    x.isZero = true ↔ a = 0 := by
  rcases exists_finite_of_integer? whole with ⟨s, m, e, rfl⟩
  rw [integer?_finite, Option.map_eq_some_iff] at whole
  rcases whole with ⟨A, whole, rfl⟩
  change (m == 0) = true ↔ signed s A = 0
  rw [beq_iff_eq, eq_zero_iff_of_whole? whole, ← Int.natAbs_eq_zero, natAbs_signed]

theorem writeResult_of_integer? {x : Double} {a : Int} (whole : x.integer? = some a) :
    Number.writeResult x = toString a := by
  rw [Number.writeResult, whole]

end Runbook.Double
