import Runbook.Proofs.Number.Whole

/-! # Rounding and order

Every double is a whole number of ticks, the least positive double being one of them. On ticks the
order of doubles is the order of whole numbers. Rounding goes from whole numbers of ticks to those
that have no more than 53 bits in a row; it keeps the order, and leaves doubles as they are. So a
sum of doubles, which is the rounded sum of their ticks, grows along with its parts.
-/

namespace Runbook.Double

open Number (powerOfTwo powerOfTwo_add powerOfTwo_pos powerOfTwo_zero)

/-! ## Rounding to the nearest -/

section RoundShift

variable {m n places : Nat}

theorem roundShift_eq (m places : Nat) : roundShift m places =
    if 2 * (m % powerOfTwo places) < powerOfTwo places then m / powerOfTwo places
    else if powerOfTwo places < 2 * (m % powerOfTwo places) then m / powerOfTwo places + 1
    else m / powerOfTwo places + m / powerOfTwo places % 2 := rfl

theorem roundShift_zero (m : Nat) : roundShift m 0 = m := by
  rw [roundShift_of_dvd (Nat.one_dvd m), powerOfTwo_zero, Nat.div_one]

theorem div_le_roundShift (m places : Nat) : m / powerOfTwo places ≤ roundShift m places := by
  rw [roundShift_eq]
  split_ifs <;> omega

theorem roundShift_le_succ (m places : Nat) :
    roundShift m places ≤ m / powerOfTwo places + 1 := by
  rw [roundShift_eq]
  split_ifs <;> omega

theorem roundShift_mono (less : m ≤ n) : roundShift m places ≤ roundShift n places := by
  have quotients : m / powerOfTwo places ≤ n / powerOfTwo places := Nat.div_le_div_right less
  rcases quotients.lt_or_eq with further | same
  · calc
      roundShift m places ≤ m / powerOfTwo places + 1 := roundShift_le_succ m places
      _ ≤ n / powerOfTwo places := further
      _ ≤ roundShift n places := div_le_roundShift n places
  · have remainders : m % powerOfTwo places ≤ n % powerOfTwo places := by
      have first := Nat.div_add_mod m (powerOfTwo places)
      have second := Nat.div_add_mod n (powerOfTwo places)
      rw [same] at first
      omega
    rw [roundShift_eq, roundShift_eq, same]
    split_ifs <;> omega

/-- Zeros at the end make no difference. -/
theorem roundShift_mul (m places more : Nat) :
    roundShift (m * powerOfTwo more) (places + more) = roundShift m places := by
  have positive := powerOfTwo_pos more
  rw [roundShift_eq, roundShift_eq, powerOfTwo_add, Nat.mul_div_mul_right _ _ positive,
    Nat.mul_mod_mul_right, ← mul_assoc]
  simp only [Nat.mul_lt_mul_right positive]

end RoundShift

/-- The nearest number that has no more than 53 bits in a row, an exact tie going to the even
one. -/
def nearest (n : Nat) : Nat := roundShift n (n.log2 - 52) * powerOfTwo (n.log2 - 52)

section Nearest

variable {m n : Nat}

theorem log2_mul_powerOfTwo (nonzero : m ≠ 0) (k : Nat) :
    (m * powerOfTwo k).log2 = m.log2 + k := by
  rw [Nat.log2_eq_iff (Nat.mul_ne_zero nonzero (powerOfTwo_pos k).ne'), Nat.add_right_comm,
    Nat.pow_add, Nat.pow_add]
  exact ⟨Nat.mul_le_mul_right _ (Nat.log2_self_le nonzero),
    Nat.mul_lt_mul_of_pos_right Nat.lt_log2_self (powerOfTwo_pos k)⟩

theorem nearest_zero : nearest 0 = 0 := rfl

theorem nearest_of_dvd (divides : powerOfTwo (n.log2 - 52) ∣ n) : nearest n = n := by
  rw [nearest, roundShift_of_dvd divides, Nat.div_mul_cancel divides]

theorem powerOfTwo_dvd_of_short (short : m < powerOfTwo 53) (k : Nat) :
    powerOfTwo ((m * powerOfTwo k).log2 - 52) ∣ m * powerOfTwo k := by
  by_cases none : m = 0
  · rw [none, zero_mul]
    exact Nat.dvd_zero _
  · have bits : m.log2 < 53 := (Nat.log2_lt none).mpr short
    have zeros : (m * powerOfTwo k).log2 - 52 ≤ k := by
      rw [log2_mul_powerOfTwo none]
      omega
    exact (powerOfTwo_dvd zeros).mul_left m

/-- A number of no more than 53 bits in a row is the nearest to itself. -/
theorem nearest_of_short (short : m < powerOfTwo 53) (k : Nat) :
    nearest (m * powerOfTwo k) = m * powerOfTwo k :=
  nearest_of_dvd (powerOfTwo_dvd_of_short short k)

/-- The numbers next to a number of 53 bits are of no more bits in a row. -/
theorem nearest_beside (divides : powerOfTwo (n.log2 - 52) ∣ n) :
    nearest (n + powerOfTwo (n.log2 - 52)) = n + powerOfTwo (n.log2 - 52) ∧
      nearest (n - powerOfTwo (n.log2 - 52)) = n - powerOfTwo (n.log2 - 52) := by
  have below : n < powerOfTwo 53 * powerOfTwo (n.log2 - 52) := by
    rw [← powerOfTwo_add]
    exact Nat.lt_log2_self.trans_le
      (Nat.le_of_dvd (powerOfTwo_pos _) (powerOfTwo_dvd (by omega)))
  generalize n.log2 - 52 = places at divides below
  rcases divides with ⟨m, rfl⟩
  rw [mul_comm] at below ⊢
  have short := Nat.lt_of_mul_lt_mul_right below
  rw [← Nat.succ_mul, ← Nat.sub_one_mul]
  refine ⟨?_, nearest_of_short (by omega) places⟩
  rcases (Nat.succ_le_of_lt short).lt_or_eq with shorter | full
  · exact nearest_of_short shorter places
  · have half : powerOfTwo 53 * powerOfTwo places = powerOfTwo 52 * powerOfTwo (1 + places) := by
      rw [powerOfTwo_add, ← mul_assoc]
      rfl
    rw [full, half]
    exact nearest_of_short (by decide) _

/-- Rounding does not go beyond the next power of two. -/
theorem nearest_le (n : Nat) : nearest n ≤ powerOfTwo (n.log2 + 1) := by
  have divides : powerOfTwo (n.log2 - 52) ∣ powerOfTwo (n.log2 + 1) := powerOfTwo_dvd (by omega)
  calc
    nearest n ≤ roundShift (powerOfTwo (n.log2 + 1)) (n.log2 - 52) * powerOfTwo (n.log2 - 52) :=
      Nat.mul_le_mul_right _ (roundShift_mono Nat.lt_log2_self.le)
    _ = powerOfTwo (n.log2 + 1) := by
      rw [roundShift_of_dvd divides, Nat.div_mul_cancel divides]

theorem le_nearest (nonzero : n ≠ 0) : powerOfTwo n.log2 ≤ nearest n := by
  have divides : powerOfTwo (n.log2 - 52) ∣ powerOfTwo n.log2 := powerOfTwo_dvd (by omega)
  calc
    powerOfTwo n.log2 = roundShift (powerOfTwo n.log2) (n.log2 - 52) * powerOfTwo (n.log2 - 52) := by
      rw [roundShift_of_dvd divides, Nat.div_mul_cancel divides]
    _ ≤ nearest n := Nat.mul_le_mul_right _ (roundShift_mono (Nat.log2_self_le nonzero))

theorem nearest_mono (less : m ≤ n) : nearest m ≤ nearest n := by
  by_cases none : m = 0
  · rw [none, nearest_zero]
    exact Nat.zero_le _
  · have nonzero : n ≠ 0 := (Nat.pos_of_ne_zero none |>.trans_le less).ne'
    have bits : m.log2 ≤ n.log2 :=
      (Nat.le_log2 nonzero).mpr ((Nat.log2_self_le none).trans less)
    rcases bits.lt_or_eq with fewer | same
    · calc
        nearest m ≤ powerOfTwo (m.log2 + 1) := nearest_le m
        _ ≤ powerOfTwo n.log2 := Nat.pow_le_pow_right Nat.two_pos fewer
        _ ≤ nearest n := le_nearest nonzero
    · rw [nearest, nearest, same]
      exact Nat.mul_le_mul_right _ (roundShift_mono less)

end Nearest

/-! ## Ticks -/

/-- The doubles that there are: no more than 53 bits in the range of exponents, or infinite. -/
inductive Representable : Double → Prop
  | finite {s : Bool} {m : Nat} {e : Int} (short : m < powerOfTwo 53) (least : leastExponent ≤ e)
      (greatest : e ≤ greatestExponent) : Representable (.finite s m e)
  | infinite (s : Bool) : Representable (.infinite s)

/-- What is this many ticks or more is infinite. -/
def overflow : Nat := powerOfTwo 53 * powerOfTwo (greatestExponent - leastExponent).toNat

/-- How many times the least positive double goes into a double. -/
def ticks : Double → Int
  | .finite s m e => signed s (m * powerOfTwo (e - leastExponent).toNat)
  | .infinite s => signed s overflow
  | .notANumber => 0

/-- The nearest number of ticks that a double has. -/
def rounded (n : Int) : Int := signed (decide (n < 0)) (min (nearest n.natAbs) overflow)

theorem overflow_pos : 0 < overflow := Nat.mul_pos (powerOfTwo_pos _) (powerOfTwo_pos _)

section Order

variable {x y : Double}

theorem natAbs_ticks_lt (representable : Representable x) (finite : x.isFinite = true) :
    x.ticks.natAbs < overflow := by
  cases representable with
  | @finite s m e short least greatest =>
      have exponents : (e - leastExponent).toNat ≤ (greatestExponent - leastExponent).toNat := by
        omega
      rw [ticks, natAbs_signed, overflow]
      exact Nat.mul_lt_mul_of_lt_of_le short
        (Nat.le_of_dvd (powerOfTwo_pos _) (powerOfTwo_dvd exponents)) (powerOfTwo_pos _)
  | infinite => cases finite

theorem isFinite_of_natAbs_ticks_lt (representable : Representable x)
    (bound : x.ticks.natAbs < overflow) : x.isFinite = true := by
  cases representable with
  | finite => rfl
  | infinite s =>
      rw [ticks, natAbs_signed] at bound
      exact absurd bound (lt_irrefl overflow)

theorem Representable.natAbs_ticks_le (representable : Representable x) :
    x.ticks.natAbs ≤ overflow := by
  cases x with
  | finite s m e => exact (natAbs_ticks_lt representable rfl).le
  | infinite s => rw [ticks, natAbs_signed]
  | notANumber => cases representable

section Bounds

variable {n : Int} {bound : Nat} (s t : Bool)

theorem lt_signed_iff (within : n.natAbs < bound) : (!s) = true ↔ n < signed s bound := by
  cases s <;> simp [signed] <;> omega

theorem signed_lt_iff (within : n.natAbs < bound) : s = true ↔ signed s bound < n := by
  cases s <;> simp [signed] <;> omega

theorem signed_lt_signed_iff (positive : 0 < bound) :
    (s && !t) = true ↔ signed s bound < signed t bound := by
  cases s <;> cases t <;> simp [signed]; omega

theorem signed_ne (within : n.natAbs < bound) : signed s bound ≠ n := by
  rintro rfl
  rw [natAbs_signed] at within
  exact lt_irrefl bound within

theorem signed_eq_signed_iff (positive : 0 < bound) :
    (s == t) = true ↔ signed s bound = signed t bound := by
  cases s <;> cases t <;> simp [signed] <;> omega

end Bounds

/-- Infinite doubles lie beyond all others. -/
theorem lt_iff_ticks (left : Representable x) (right : Representable y) :
    x.lt y = true ↔ x.ticks < y.ticks := by
  cases x with
  | finite s m e =>
      have bound := natAbs_ticks_lt left rfl
      cases y with
      | finite t n f =>
          rcases left with ⟨_, leftLeast, _⟩
          rcases right with ⟨_, rightLeast, _⟩
          rw [lt_finite_iff (le_min leftLeast rightLeast), signedUnits_eq, signedUnits_eq]
          rfl
      | infinite t => exact lt_signed_iff t bound
      | notANumber => cases right
  | infinite s =>
      cases y with
      | finite t n f => exact signed_lt_iff s (natAbs_ticks_lt right rfl)
      | infinite t => exact signed_lt_signed_iff s t overflow_pos
      | notANumber => cases right
  | notANumber => cases left

theorem eq_iff_ticks (left : Representable x) (right : Representable y) :
    x.eq y = true ↔ x.ticks = y.ticks := by
  cases x with
  | finite s m e =>
      have bound := natAbs_ticks_lt left rfl
      cases y with
      | finite t n f =>
          rcases left with ⟨_, leftLeast, _⟩
          rcases right with ⟨_, rightLeast, _⟩
          rw [eq_finite_iff (le_min leftLeast rightLeast), signedUnits_eq, signedUnits_eq]
          rfl
      | infinite t => exact iff_of_false Bool.false_ne_true (signed_ne t bound).symm
      | notANumber => cases right
  | infinite s =>
      cases y with
      | finite t n f =>
          exact iff_of_false Bool.false_ne_true (signed_ne s (natAbs_ticks_lt right rfl))
      | infinite t => exact signed_eq_signed_iff s t overflow_pos
      | notANumber => cases right
  | notANumber => cases left

theorem le_iff_ticks (left : Representable x) (right : Representable y) :
    x.le y = true ↔ x.ticks ≤ y.ticks := by
  rw [le, Bool.or_eq_true, lt_iff_ticks left right, eq_iff_ticks left right, le_iff_lt_or_eq]

theorem representable_neg (representable : Representable x) : Representable (-x) := by
  cases representable with
  | finite short least greatest => exact .finite short least greatest
  | infinite s => exact .infinite (!s)

end Order

/-! ## Rounded ticks -/

section Rounding

variable (s : Bool) {m : Nat} {e : Int}

theorem pack_of_short (short : m < powerOfTwo 53) (e : Int) :
    pack s m e =
      if m = 0 then zero s else if greatestExponent < e then .infinite s else .finite s m e := by
  simp only [pack, beq_iff_eq, short.ne, if_false]

/-- A mantissa that has grown by one bit is cut in half. -/
theorem pack_full (e : Int) : pack s (powerOfTwo 53) e = pack s (powerOfTwo 52) (e + 1) := by
  have short : powerOfTwo 52 < powerOfTwo 53 := by decide
  have nonzero : powerOfTwo 52 ≠ 0 := by decide
  rw [pack_of_short s short, pack]
  simp only [beq_self_eq_true, if_true, beq_iff_eq, nonzero, if_false]

theorem representable_zero : Representable (zero s) :=
  .finite (powerOfTwo_pos 53) le_rfl (by decide)

theorem ticks_zero : (zero s).ticks = 0 := by
  rw [zero, ticks, zero_mul, signed_zero]

/-- A mantissa of 53 bits is beyond all doubles if its exponent is. -/
theorem overflow_le (full : powerOfTwo 52 ≤ m) (beyond : greatestExponent < e) :
    overflow ≤ m * powerOfTwo (e - leastExponent).toNat := by
  have ordered : leastExponent ≤ greatestExponent := by decide
  have exponents : 1 + (greatestExponent - leastExponent).toNat ≤ (e - leastExponent).toNat := by
    omega
  have doubled : powerOfTwo 53 = powerOfTwo 52 * powerOfTwo 1 := rfl
  calc
    overflow = powerOfTwo 52 * powerOfTwo (1 + (greatestExponent - leastExponent).toNat) := by
      rw [overflow, doubled, mul_assoc, ← powerOfTwo_add]
    _ ≤ m * powerOfTwo (e - leastExponent).toNat :=
      Nat.mul_le_mul full (Nat.le_of_dvd (powerOfTwo_pos _) (powerOfTwo_dvd exponents))

theorem ticks_pack_of_short (short : m < powerOfTwo 53) (least : leastExponent ≤ e)
    (full : powerOfTwo 52 ≤ m ∨ e = leastExponent) :
    Representable (pack s m e) ∧
      (pack s m e).ticks = signed s (min (m * powerOfTwo (e - leastExponent).toNat) overflow) := by
  rw [pack_of_short s short]
  split_ifs with none beyond
  · refine ⟨representable_zero s, ?_⟩
    rw [ticks_zero, none, zero_mul, Nat.zero_min, signed_zero]
  · have ordered : leastExponent ≤ greatestExponent := by decide
    have mantissa : powerOfTwo 52 ≤ m := full.resolve_right (by omega)
    exact ⟨.infinite s, by rw [ticks, min_eq_right (overflow_le mantissa beyond)]⟩
  · have representable : Representable (.finite s m e) := .finite short least (not_lt.mp beyond)
    have bound := natAbs_ticks_lt representable rfl
    rw [ticks, natAbs_signed] at bound
    exact ⟨representable, by rw [ticks, min_eq_left bound.le]⟩

theorem ticks_pack (short : m ≤ powerOfTwo 53) (least : leastExponent ≤ e)
    (full : powerOfTwo 52 ≤ m ∨ e = leastExponent) :
    Representable (pack s m e) ∧
      (pack s m e).ticks = signed s (min (m * powerOfTwo (e - leastExponent).toNat) overflow) := by
  rcases short.lt_or_eq with short | rfl
  · exact ticks_pack_of_short s short least full
  · have halves : (e + 1 - leastExponent).toNat = 1 + (e - leastExponent).toNat := by omega
    have doubled : powerOfTwo 53 = powerOfTwo 52 * powerOfTwo 1 := rfl
    rw [pack_full, doubled, mul_assoc, ← powerOfTwo_add, ← halves]
    exact ticks_pack_of_short s (by decide) (by omega) (.inl le_rfl)

/-- A mantissa may end in zeros that its exponent could stand for. -/
theorem round_mul (m k : Nat) (e : Int) :
    round s (m * powerOfTwo k) e = round s m (e + k) := by
  by_cases none : m = 0
  · rw [none, zero_mul]
    rfl
  have nonzero : m * powerOfTwo k ≠ 0 := Nat.mul_ne_zero none (powerOfTwo_pos k).ne'
  have target : e + ↑(m.log2 + k) - 52 = e + k + m.log2 - 52 := by omega
  simp only [round, beq_iff_eq, none, nonzero, if_false, log2_mul_powerOfTwo none, target]
  generalize max (e + k + m.log2 - 52) leastExponent = target
  by_cases multiple : target ≤ e + k
  · rw [if_pos multiple]
    split
    · have exponents : (e + k - target).toNat = k + (e - target).toNat := by omega
      rw [exponents, powerOfTwo_add, mul_assoc]
    · have exponents : k = (e + k - target).toNat + (target - e).toNat := by omega
      have parts : m * powerOfTwo k =
          m * powerOfTwo (e + k - target).toNat * powerOfTwo (target - e).toNat := by
        rw [mul_assoc, ← powerOfTwo_add, ← exponents]
      rw [parts, roundShift_of_dvd (Nat.dvd_mul_left _ _), Nat.mul_div_cancel _ (powerOfTwo_pos _)]
  · have places : (target - e).toNat = (target - (e + k)).toNat + k := by omega
    rw [if_neg multiple, if_neg (by omega), places, roundShift_mul]

/-- A rounded mantissa has 53 bits, or is the next power of two, unless it was short before. -/
theorem roundShift_bounds (n : Nat) :
    roundShift n (n.log2 - 52) ≤ powerOfTwo 53 ∧
      (powerOfTwo 52 ≤ roundShift n (n.log2 - 52) ∨ n.log2 - 52 = 0) := by
  have positive := powerOfTwo_pos (n.log2 - 52)
  constructor
  · refine Nat.le_of_mul_le_mul_right ?_ positive
    calc
      nearest n ≤ powerOfTwo (n.log2 + 1) := nearest_le n
      _ ≤ powerOfTwo (53 + (n.log2 - 52)) :=
        Nat.le_of_dvd (powerOfTwo_pos _) (powerOfTwo_dvd (by omega))
      _ = powerOfTwo 53 * powerOfTwo (n.log2 - 52) := powerOfTwo_add 53 _
  · by_cases none : n.log2 - 52 = 0
    · exact .inr none
    · refine .inl (Nat.le_of_mul_le_mul_right ?_ positive)
      have nonzero : n ≠ 0 := fun zero => none (by rw [zero, Nat.log2_zero])
      have bits : 52 + (n.log2 - 52) = n.log2 := by omega
      rw [← powerOfTwo_add, bits]
      exact le_nearest nonzero

/-- Rounding as rounding to the nearest number of ticks. -/
theorem ticks_round_least (n : Nat) :
    Representable (round s n leastExponent) ∧
      (round s n leastExponent).ticks = signed s (min (nearest n) overflow) := by
  have packed : round s n leastExponent =
      pack s (roundShift n (n.log2 - 52)) (leastExponent + (n.log2 - 52 : Nat)) := by
    rw [round]
    split
    · rename_i none
      rw [beq_iff_eq.mp none]
      rfl
    · have target : max (leastExponent + n.log2 - 52) leastExponent =
          leastExponent + (n.log2 - 52 : Nat) := by omega
      rw [target]
      dsimp only
      split
      · have none : n.log2 - 52 = 0 := by omega
        rw [none, roundShift_zero, Nat.cast_zero, add_zero, sub_self]
        exact congrArg (pack s · leastExponent) (Nat.mul_one n)
      · have places : (leastExponent + (n.log2 - 52 : Nat) - leastExponent).toNat = n.log2 - 52 := by
          omega
        rw [places]
  have bounds := roundShift_bounds n
  have least : leastExponent ≤ leastExponent + (n.log2 - 52 : Nat) := by omega
  have full := bounds.2.imp_right fun none =>
    (by omega : leastExponent + ((n.log2 - 52 : Nat) : Int) = leastExponent)
  have spec := ticks_pack s bounds.1 least full
  rwa [← packed, add_sub_cancel_left, Int.toNat_natCast] at spec

theorem ticks_round (least : leastExponent ≤ e) :
    Representable (round s m e) ∧ (round s m e).ticks =
      signed s (min (nearest (m * powerOfTwo (e - leastExponent).toNat)) overflow) := by
  have exponent : e = leastExponent + (e - leastExponent).toNat := by omega
  have rescaled := ticks_round_least s (m * powerOfTwo (e - leastExponent).toNat)
  rwa [round_mul, ← exponent] at rescaled

end Rounding

/-! ## Sums -/

theorem rounded_mono {a b : Int} (le : a ≤ b) : rounded a ≤ rounded b := by
  have magnitudes {m n : Nat} (less : m ≤ n) : min (nearest m) overflow ≤ min (nearest n) overflow :=
    min_le_min_right overflow (nearest_mono less)
  simp only [rounded, signed, decide_eq_true_eq]
  split_ifs with left right
  · have := magnitudes (m := b.natAbs) (n := a.natAbs) (by omega)
    omega
  · omega
  · omega
  · have := magnitudes (m := a.natAbs) (n := b.natAbs) (by omega)
    omega

theorem rounded_signed (s : Bool) (n : Nat) :
    rounded (signed s n) = signed s (min (nearest n) overflow) := by
  rw [rounded, natAbs_signed]
  by_cases none : n = 0
  · rw [none, nearest_zero, Nat.zero_min, signed_zero, signed_zero]
  · have sign : decide (signed s n < 0) = s := by
      cases s <;> simp [signed]
      omega
    rw [sign]

theorem rounded_zero : rounded 0 = 0 := by
  have sum := rounded_signed false 0
  rwa [nearest_zero, Nat.zero_min] at sum

/-- The next number of 53 bits in a row is beyond the number itself, also after rounding. -/
theorem lt_rounded_add {a : Int} (divides : powerOfTwo (a.natAbs.log2 - 52) ∣ a.natAbs)
    (bound : a.natAbs < overflow) : a < rounded (a + powerOfTwo (a.natAbs.log2 - 52)) := by
  rcases nearest_beside divides with ⟨above, below⟩
  have positive := powerOfTwo_pos (a.natAbs.log2 - 52)
  generalize powerOfTwo (a.natAbs.log2 - 52) = gap at *
  rcases lt_or_ge a 0 with negative | nonnegative
  · have within : gap ≤ a.natAbs := Nat.le_of_dvd (by omega) divides
    have next : (a + gap).natAbs = a.natAbs - gap := by omega
    rw [rounded, next, below, min_eq_left (by omega), signed]
    split_ifs <;> omega
  · have next : (a + gap).natAbs = a.natAbs + gap := by omega
    rw [rounded, next, above, signed, if_neg (by simp; omega)]
    omega

section Sums

variable {x y step : Double}

/-- Doubles are not rounded. -/
theorem rounded_ticks (representable : Representable x) (finite : x.isFinite = true) :
    rounded x.ticks = x.ticks := by
  cases x with
  | finite s m e =>
      have bound := natAbs_ticks_lt representable rfl
      rcases representable with ⟨short, _, _⟩
      rw [ticks, natAbs_signed] at bound
      rw [ticks, rounded_signed, nearest_of_short short, min_eq_left bound.le]
  | infinite | notANumber => cases finite

theorem ticks_ofUnits {e : Int} (units : Int) (least : leastExponent ≤ e) (zeroNegative : Bool) :
    Representable (ofUnits units e zeroNegative) ∧
      (ofUnits units e zeroNegative).ticks =
        rounded (units * powerOfTwo (e - leastExponent).toNat) := by
  rw [ofUnits]
  split
  · rename_i none
    rw [beq_iff_eq.mp none, zero_mul, rounded_zero]
    exact ⟨representable_zero _, ticks_zero _⟩
  · have spec := ticks_round (decide (units < 0)) (m := units.natAbs) least
    rwa [← rounded_signed, ← signed_mul, signed_natAbs] at spec

theorem finite_add (s t : Bool) (m n : Nat) (e f : Int) :
    Double.finite s m e + .finite t n f =
      ofUnits (signedUnits s m e (min e f) + signedUnits t n f (min e f)) (min e f) (s && t) := rfl

theorem infinite_add (s : Bool) (finite : step.isFinite = true) :
    Double.infinite s + step = .infinite s := by
  cases step with
  | finite => rfl
  | infinite | notANumber => cases finite

variable (representable : Representable step) (finite : step.isFinite = true)
include representable finite

/-- A sum is the rounded sum of the ticks. -/
theorem ticks_add (left : Representable x) (leftFinite : x.isFinite = true) :
    Representable (x + step) ∧ (x + step).ticks = rounded (x.ticks + step.ticks) := by
  cases x with
  | finite s m e =>
      cases step with
      | finite t n f =>
          rcases left with ⟨_, leftLeast, _⟩
          rcases representable with ⟨_, rightLeast, _⟩
          have within := le_min leftLeast rightLeast
          have spec := ticks_ofUnits (signedUnits s m e (min e f) + signedUnits t n f (min e f))
            within (s && t)
          rw [add_mul, ← signedUnits_of_le s m within (min_le_left e f),
            ← signedUnits_of_le t n within (min_le_right e f), signedUnits_eq, signedUnits_eq] at spec
          rwa [finite_add, ticks, ticks]
      | infinite | notANumber => cases finite
  | infinite | notANumber => cases leftFinite

theorem representable_add (left : Representable x) : Representable (x + step) := by
  cases x with
  | finite s m e => exact (ticks_add representable finite left rfl).1
  | infinite s =>
      rw [infinite_add s finite]
      exact .infinite s
  | notANumber => cases left

/-- Sums with the same number keep the order. -/
theorem ticks_add_mono (left : Representable x) (right : Representable y)
    (le : x.ticks ≤ y.ticks) : (x + step).ticks ≤ (y + step).ticks := by
  have leftBound := (representable_add representable finite left).natAbs_ticks_le
  have rightBound := (representable_add representable finite right).natAbs_ticks_le
  cases x with
  | infinite s =>
      rw [infinite_add s finite] at leftBound ⊢
      cases s with
      | true =>
          change -(overflow : Int) ≤ _
          omega
      | false =>
          cases y with
          | infinite t => rwa [infinite_add t finite]
          | finite t n f =>
              have bound := natAbs_ticks_lt right rfl
              change (overflow : Int) ≤ _ at le
              omega
          | notANumber => cases right
  | finite s m e =>
      cases y with
      | infinite t =>
          rw [infinite_add t finite] at rightBound ⊢
          cases t with
          | true =>
              have bound := natAbs_ticks_lt left rfl
              change _ ≤ -(overflow : Int) at le
              omega
          | false =>
              change _ ≤ (overflow : Int)
              omega
      | finite t n f =>
          rw [(ticks_add representable finite left rfl).2, (ticks_add representable finite right rfl).2]
          exact rounded_mono (Int.add_le_add_right le _)
      | notANumber => cases right
  | notANumber => cases left

/-- Nothing becomes less by the addition of what is not negative. -/
theorem ticks_le_add (left : Representable x) (positive : 0 ≤ step.ticks) :
    x.ticks ≤ (x + step).ticks := by
  cases x with
  | finite s m e =>
      rw [(ticks_add representable finite left rfl).2]
      calc
        ticks (.finite s m e) = rounded (ticks (.finite s m e)) := (rounded_ticks left rfl).symm
        _ ≤ rounded (ticks (.finite s m e) + step.ticks) := rounded_mono (by omega)
  | infinite s => rw [infinite_add s finite]
  | notANumber => cases left

/-- No double absorbs a step that is as long as the gap to the next double. -/
theorem ticks_lt_add (left : Representable x) (leftFinite : x.isFinite = true)
    (gap : (powerOfTwo (x.ticks.natAbs.log2 - 52) : Int) ≤ step.ticks) :
    x.ticks < (x + step).ticks := by
  cases x with
  | finite s m e =>
      have bound := natAbs_ticks_lt left rfl
      have divides : powerOfTwo ((ticks (.finite s m e)).natAbs.log2 - 52) ∣
          (ticks (.finite s m e)).natAbs := by
        rcases left with ⟨short, _, _⟩
        rw [ticks, natAbs_signed]
        exact powerOfTwo_dvd_of_short short _
      rw [(ticks_add representable finite left rfl).2]
      calc
        ticks (.finite s m e) < rounded (ticks (.finite s m e) + _) := lt_rounded_add divides bound
        _ ≤ rounded (ticks (.finite s m e) + step.ticks) := rounded_mono (by omega)
  | infinite | notANumber => cases leftFinite

end Sums

end Runbook.Double
