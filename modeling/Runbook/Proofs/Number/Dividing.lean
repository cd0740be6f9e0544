import Runbook.Proofs.Number.Whole

/-! # Dividing whole doubles

The division of doubles that rounds down starts from the one that rounds towards zero: its
remainder is exact, and what the quotient and the remainder lack is made up for afterwards. Of
whole doubles both come out as the quotient and the remainder of whole numbers.
-/

namespace Runbook.Double

open Number (powerOfTwo powerOfTwo_add powerOfTwo_pos powerOfTwo_zero)

/-! ## Rounding down instead of towards zero -/

/-- Whether a quotient of whole numbers comes out too large when it is rounded towards zero. -/
def LiesAbove (a b : Int) : Prop := a.tmod b ≠ 0 ∧ ¬(b < 0 ↔ a.tmod b < 0)

section Integers

variable {a b : Int}

theorem tmod_neg_iff (indivisible : ¬b ∣ a) : a.tmod b < 0 ↔ a < 0 := by
  rw [← Int.sign_eq_neg_one_iff_neg, Int.sign_tmod, if_neg indivisible,
    Int.sign_eq_neg_one_iff_neg]

theorem fdiv_of_liesAbove (nonzero : b ≠ 0) (above : LiesAbove a b) :
    a.fdiv b = a.tdiv b - 1 := by
  rcases above with ⟨rest, signs⟩
  have indivisible : ¬b ∣ a := fun divides => rest (Int.tmod_eq_zero_of_dvd divides)
  rw [tmod_neg_iff indivisible] at signs
  rw [Int.fdiv_eq_tdiv, if_neg indivisible]
  rcases nonzero.lt_or_gt with negative | positive
  · rw [Int.sign_eq_neg_one_of_neg negative]
    split_ifs <;> omega
  · rw [Int.sign_eq_one_of_pos positive]
    split_ifs <;> omega

theorem fdiv_of_not_liesAbove (fits : ¬LiesAbove a b) : a.fdiv b = a.tdiv b := by
  rw [Int.fdiv_eq_tdiv]
  by_cases divides : b ∣ a
  · rw [if_pos divides, sub_zero]
  · have rest : a.tmod b ≠ 0 := fun none => divides (Int.dvd_of_tmod_eq_zero none)
    have signs : b < 0 ↔ a < 0 := by
      rw [← tmod_neg_iff divides]
      exact not_not.mp fun differ => fits ⟨rest, differ⟩
    rw [if_neg divides]
    rcases lt_trichotomy b 0 with negative | rfl | positive
    · rw [Int.sign_eq_neg_one_of_neg negative]
      split_ifs <;> omega
    · rw [Int.sign_zero]
      split_ifs <;> omega
    · split_ifs <;> omega

theorem fmod_of_liesAbove (nonzero : b ≠ 0) (above : LiesAbove a b) :
    a.fmod b = a.tmod b + b := by
  rw [Int.fmod_def, Int.tmod_def, fdiv_of_liesAbove nonzero above]
  ring

theorem fmod_of_not_liesAbove (fits : ¬LiesAbove a b) : a.fmod b = a.tmod b := by
  rw [Int.fmod_def, Int.tmod_def, fdiv_of_not_liesAbove fits]

theorem signed_tmod (s t : Bool) (A B : Nat) :
    (signed s A).tmod (signed t B) = signed s (A % B) := by
  cases s <;> cases t <;> simp [signed, ← Int.ofNat_tmod]

theorem eq_of_signed_eq {s t : Bool} {A B : Nat} (nonzero : A ≠ 0)
    (same : signed s A = signed t B) : s = t ∧ A = B := by
  cases s <;> cases t <;> simp only [signed, if_true, if_false, Bool.false_eq_true] at same <;>
    simp <;> omega

end Integers

/-! ## The division that rounds towards zero -/

/-- A fraction that is a whole number is not rounded. -/
theorem integer?_ofRatio (s : Bool) {Q denominator : Nat} (positive : 0 < denominator)
    (nonzero : Q ≠ 0) (small : Q ≤ wholeBound) :
    (ofRatio s (Q * denominator) denominator).integer? = some (signed s Q) := by
  have close : (Q * denominator).log2 < denominator.log2 + 55 := by
    rw [Nat.log2_lt (Nat.mul_ne_zero nonzero positive.ne')]
    calc
      Q * denominator < 2 ^ 54 * 2 ^ (denominator.log2 + 1) :=
        Nat.mul_lt_mul_of_le_of_lt
          (small.trans (Nat.pow_le_pow_right Nat.two_pos (Nat.le_succ 53))) Nat.lt_log2_self
          (by positivity)
      _ = 2 ^ (denominator.log2 + 55) := by ring
  unfold ofRatio
  extract_lets shift above below rest
  have forward : 0 ≤ shift := by omega
  have unscaled : below = denominator := by
    have none : (-shift).toNat = 0 := by omega
    simp only [below, none, powerOfTwo_zero, mul_one]
  have divided : above = Q * powerOfTwo shift.toNat * denominator := by
    simp only [above]
    ring
  have exact : rest = 0 := by
    simp only [rest, divided, unscaled, Nat.mul_mod_left, beq_self_eq_true, if_true]
  have quotient : above / below = Q * powerOfTwo shift.toNat := by
    rw [divided, unscaled, Nat.mul_div_cancel _ positive]
  rw [exact, quotient, add_zero]
  refine integer?_round s ?_ small
  have parts : (-(-shift - 1)).toNat = shift.toNat + 1 := by omega
  rw [whole?_eq_some_iff le_rfl (by omega), sub_self, parts, powerOfTwo_add]
  change 2 * (Q * powerOfTwo shift.toNat) * 1 = Q * (powerOfTwo shift.toNat * 2)
  ring

/-- If one whole number is a multiple of another, then the same holds of their mantissas over
the smaller of their exponents. -/
theorem multiple_of_whole? {m n Q B : Nat} {e f : Int} (left : whole? m e = some (Q * B))
    (right : whole? n f = some B) :
    m * powerOfTwo (e - f).toNat = Q * (n * powerOfTwo (f - e).toNat) := by
  have within : min (min e f) 0 ≤ min e f := min_le_left _ _
  have below : min (min e f) 0 ≤ 0 := min_le_right _ _
  rw [whole?_eq_some_iff (within.trans (min_le_left e f)) below,
    units_of_le m within (min_le_left e f)] at left
  rw [whole?_eq_some_iff (within.trans (min_le_right e f)) below,
    units_of_le n within (min_le_right e f)] at right
  have first : (e - min e f).toNat = (e - f).toNat := by omega
  have second : (f - min e f).toNat = (f - e).toNat := by omega
  rw [mul_assoc Q, ← right, first, second, ← mul_assoc Q] at left
  exact Nat.eq_of_mul_eq_mul_right (powerOfTwo_pos _) left

section Truncated

variable {x y : Double} {a b : Int} (left : x.integer? = some a) (right : y.integer? = some b)
  (nonzero : b ≠ 0)
include left right nonzero

theorem integer?_truncatedRemainder (small : a.natAbs ≤ wholeBound) :
    (truncatedRemainder x y).integer? = some (a.tmod b) := by
  rcases exists_finite_of_integer? left with ⟨s, m, e, rfl⟩
  rcases exists_finite_of_integer? right with ⟨t, n, f, rfl⟩
  rw [integer?_finite, Option.map_eq_some_iff] at left right
  rcases left with ⟨A, wholeLeft, rfl⟩
  rcases right with ⟨B, wholeRight, rfl⟩
  rw [← Int.natAbs_ne_zero, natAbs_signed] at nonzero
  rw [natAbs_signed] at small
  have divisor : (n == 0) = false :=
    beq_eq_false_iff_ne.mpr fun none => nonzero ((eq_zero_iff_of_whole? wholeRight).mp none)
  have within : min (min e f) 0 ≤ min e f := min_le_left _ _
  have below : min (min e f) 0 ≤ 0 := min_le_right _ _
  rw [whole?_eq_some_iff (within.trans (min_le_left e f)) below,
    units_of_le m within (min_le_left e f)] at wholeLeft
  rw [whole?_eq_some_iff (within.trans (min_le_right e f)) below,
    units_of_le n within (min_le_right e f)] at wholeRight
  rw [truncatedRemainder, divisor, signed_tmod]
  refine integer?_round s ?_ ((Nat.mod_le A B).trans small)
  rw [whole?_eq_some_iff within below, ← Nat.mul_mod_mul_right, wholeLeft, wholeRight,
    Nat.mul_mod_mul_right]

/-- A quotient of whole doubles that is whole is not rounded. -/
theorem integer?_div {q : Int} (exact : a = q * b) (small : q.natAbs ≤ wholeBound) :
    (x / y).integer? = some q := by
  rcases exists_finite_of_integer? left with ⟨s, m, e, rfl⟩
  rcases exists_finite_of_integer? right with ⟨t, n, f, rfl⟩
  rw [integer?_finite, Option.map_eq_some_iff] at left right
  rcases left with ⟨A, wholeLeft, rfl⟩
  rcases right with ⟨B, wholeRight, rfl⟩
  rw [← Int.natAbs_ne_zero, natAbs_signed] at nonzero
  have divisor : n ≠ 0 := fun none => nonzero ((eq_zero_iff_of_whole? wholeRight).mp none)
  rw [← signed_natAbs q, signed_mul_signed] at exact
  change (div _ _).integer? = some q
  rw [div, if_neg (by simpa using divisor)]
  split
  · rename_i none
    have magnitudes := congrArg Int.natAbs exact
    rw [natAbs_signed, natAbs_signed, (eq_zero_iff_of_whole? wholeLeft).mp (beq_iff_eq.mp none),
      eq_comm, Nat.mul_eq_zero, or_iff_left nonzero, Int.natAbs_eq_zero] at magnitudes
    rw [integer?_zero, magnitudes]
  · rename_i dividend
    have counts : A ≠ 0 := fun none =>
      dividend (beq_iff_eq.mpr ((eq_zero_iff_of_whole? wholeLeft).mpr none))
    rcases eq_of_signed_eq counts exact with ⟨rfl, rfl⟩
    have multiple := multiple_of_whole? wholeLeft wholeRight
    have denominator : 0 < n * powerOfTwo (f - e).toNat :=
      Nat.mul_pos (Nat.pos_of_ne_zero divisor) (powerOfTwo_pos _)
    have sign : ((decide (q < 0) != t) != t) = decide (q < 0) := by
      cases decide (q < 0) <;> cases t <;> rfl
    rw [multiple, sign, integer?_ofRatio _ denominator (Nat.ne_zero_of_mul_ne_zero_left counts) small,
      signed_natAbs]

end Truncated

/-- Rounding a whole double down leaves it as it is. -/
theorem integer?_floor {x : Double} {a : Int} (whole : x.integer? = some a)
    (small : a.natAbs ≤ wholeBound) : x.floor.integer? = some a := by
  rcases exists_finite_of_integer? whole with ⟨s, m, e, rfl⟩
  rw [floor]
  split
  · exact whole
  · rename_i fractional
    rw [Bool.or_eq_true, beq_iff_eq, not_or] at fractional
    rw [integer?_finite, Option.map_eq_some_iff] at whole
    rcases whole with ⟨A, whole, rfl⟩
    rw [natAbs_signed] at small
    have shape : m * 1 = A * powerOfTwo (-e).toNat := by
      have units := (whole?_eq_some_iff le_rfl (by omega)).mp whole
      rwa [sub_self] at units
    rw [mul_one] at shape
    simp only [shape, Nat.mul_mod_left, beq_self_eq_true, if_true,
      Nat.mul_div_cancel _ (powerOfTwo_pos _)]
    exact integer?_round s (whole?_self A) small

/-! ## The division that rounds down -/

theorem not_half_lt_of_isZero {x : Double} (none : x.isZero = true) :
    ¬lt (ofRatio false 1 2) x = true := by
  have half : ofRatio false 1 2 = .finite false (powerOfTwo 52) (-53) := by decide
  cases x with
  | finite s m e =>
      cases beq_iff_eq.mp none
      have empty : signed s 0 = 0 := by cases s <;> rfl
      rw [half, lt_finite_iff le_rfl, signedUnits_eq, signedUnits_eq, zero_mul, empty]
      exact not_lt.mpr (Int.natCast_nonneg _)
  | infinite | notANumber => cases none

section Floored

variable {x y : Double} {a b : Int} (left : x.integer? = some a) (right : y.integer? = some b)
  (nonzero : b ≠ 0) (small : a.natAbs ≤ wholeBound)
include left right nonzero small

/-- The division that rounds down notices when the one that rounds towards zero lies above it. -/
theorem liesAbove_iff :
    (!(truncatedRemainder x y).isZero && (lt y 0 != lt (truncatedRemainder x y) 0)) = true ↔
      LiesAbove a b := by
  have rest := integer?_truncatedRemainder left right nonzero small
  have zero : (0 : Double).integer? = some 0 := integer?_zero false
  rw [LiesAbove, Ne, ← isZero_iff_of_integer? rest, ← lt_iff_of_integer? right zero,
    ← lt_iff_of_integer? rest zero, ← Bool.eq_iff_iff]
  simp only [Bool.and_eq_true, Bool.not_eq_true', bne_iff_ne, Bool.not_eq_true, ne_eq]

theorem integer?_floorRemainder (bounded : b.natAbs ≤ wholeBound) :
    (floorRemainder x y).integer? = some (a.fmod b) := by
  have rest := integer?_truncatedRemainder left right nonzero small
  have above := liesAbove_iff left right nonzero small
  rw [floorRemainder]
  by_cases divides : (truncatedRemainder x y).isZero = true
  · have none := (isZero_iff_of_integer? rest).mp divides
    have fits : ¬LiesAbove a b := fun above => above.1 none
    rw [if_pos divides, integer?_zero, fmod_of_not_liesAbove fits, none]
  · simp only [Bool.not_eq_true] at divides
    simp only [divides, Bool.not_false, Bool.true_and] at above
    simp only [divides, Bool.false_eq_true, if_false]
    by_cases lies : LiesAbove a b
    · rw [if_pos (above.mpr lies), fmod_of_liesAbove nonzero lies]
      refine integer?_add rest right ?_
      -- The signs differ, so neither part grows.
      have part : (a.tmod b).natAbs ≤ a.natAbs := by
        rw [Int.natAbs_tmod]
        exact Nat.mod_le _ _
      have signs := lies.2
      omega
    · rw [if_neg fun condition => lies (above.mp condition), fmod_of_not_liesAbove lies]
      exact rest

/-- The quotient of the division that rounds down, before it is rounded. -/
theorem integer?_roughQuotient :
    (if !(truncatedRemainder x y).isZero && (lt y 0 != lt (truncatedRemainder x y) 0) then
      (x - truncatedRemainder x y) / y - 1
    else (x - truncatedRemainder x y) / y).integer? = some (a.fdiv b) := by
  have rest := integer?_truncatedRemainder left right nonzero small
  have above := liesAbove_iff left right nonzero small
  have multiple : a - a.tmod b = a.tdiv b * b := by
    rw [Int.tmod_def]
    ring
  have near : (a - a.tmod b).natAbs ≤ wholeBound := by
    rw [multiple, Int.natAbs_mul, Int.natAbs_tdiv]
    exact (Nat.div_mul_le_self _ _).trans small
  have size : (a.tdiv b).natAbs ≤ wholeBound := (Int.natAbs_tdiv_le_natAbs a b).trans small
  have quotient := integer?_div (integer?_sub left rest near) right nonzero multiple size
  by_cases lies : LiesAbove a b
  · have one : (1 : Double).integer? = some 1 := by decide
    have lower : (a.tdiv b - 1).natAbs ≤ wholeBound := by
      rw [← fdiv_of_liesAbove nonzero lies]
      exact (Int.natAbs_fdiv_le_natAbs a b).trans small
    rw [if_pos (above.mpr lies), fdiv_of_liesAbove nonzero lies]
    exact integer?_sub quotient one lower
  · rw [if_neg fun condition => lies (above.mp condition), fdiv_of_not_liesAbove lies]
    exact quotient

theorem integer?_floorQuotient : (floorQuotient x y).integer? = some (a.fdiv b) := by
  have quotient := integer?_roughQuotient left right nonzero small
  have size : (a.fdiv b).natAbs ≤ wholeBound := (Int.natAbs_fdiv_le_natAbs a b).trans small
  unfold floorQuotient
  extract_lets remainder first second rounded
  change second.integer? = some (a.fdiv b) at quotient
  split
  · rename_i none
    rw [integer?_zero, (isZero_iff_of_integer? quotient).mp none]
  · have floored : rounded.integer? = some (a.fdiv b) := integer?_floor quotient size
    have gap : (second - rounded).integer? = some 0 := by
      rw [← sub_self (a.fdiv b)]
      refine integer?_sub quotient floored ?_
      rw [sub_self]
      exact Nat.zero_le _
    rw [if_neg (not_half_lt_of_isZero ((isZero_iff_of_integer? gap).mpr rfl))]
    exact floored

end Floored

end Runbook.Double
