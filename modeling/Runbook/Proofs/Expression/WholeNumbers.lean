import Runbook.Perform
import Runbook.Proofs.Expression.Checking
import Runbook.Proofs.Number.Dividing
import Runbook.Proofs.Run.Outcome

/-! # Arithmetic of whole numbers

Signs, sums, differences, products, and quotients and remainders that are rounded down lead from
whole numbers to whole numbers. An expression that is made of nothing else has an exact value,
unless it divides by zero. As long as the exact values of its operands are counted by doubles
without a gap, evaluation comes to the exact value, and to an error if there is none.
-/

namespace Runbook

/-! ## Operators -/

/-- The exact value of a sign in front of a whole number. -/
def UnaryOperator.whole? : UnaryOperator → Int → Option Int
  | .plus, a => some a
  | .minus, a => some (-a)
  | .invert, _ | .not, _ => none

namespace BinaryOperator

/-- The operators that lead from whole numbers to whole numbers. -/
def whole : List BinaryOperator := [.add, .subtract, .multiply, .floorDivide, .remainder]

def dividing : List BinaryOperator := [.floorDivide, .remainder]

/-- The exact value of an operation on whole numbers. Quotients are rounded down, and
remainders take the sign of the divisor. -/
def whole? : BinaryOperator → Int → Int → Option Int
  | .add, a, b => some (a + b)
  | .subtract, a, b => some (a - b)
  | .multiply, a, b => some (a * b)
  | .floorDivide, a, b => if b = 0 then none else some (a.fdiv b)
  | .remainder, a, b => if b = 0 then none else some (a.fmod b)
  | _, _, _ => none

theorem whole?_eq_none_iff {operator : BinaryOperator} (known : operator ∈ whole) (a b : Int) :
    operator.whole? a b = none ↔ operator ∈ dividing ∧ b = 0 := by
  cases operator with
  | add | subtract | multiply | floorDivide | remainder => simp [whole?, dividing]
  | divide | power | matrixMultiply | leftShift | rightShift | bitOr | bitXor | bitAnd =>
      simp [whole] at known

end BinaryOperator

namespace Expression

open Double (wholeBound)

/-! ## Exact values -/

/-- Natural numbers, signs, and operators that lead from whole numbers to whole numbers. -/
inductive Whole : Expression → Prop
  | integer (number : Nat) : Whole (.integer number)
  | unary {operator : UnaryOperator} {operand : Expression}
      (known : operator ∈ UnaryOperator.arithmetic) (inside : Whole operand) :
      Whole (.unary operator operand)
  | binary {operator : BinaryOperator} {left right : Expression}
      (known : operator ∈ BinaryOperator.whole) (leftInside : Whole left)
      (rightInside : Whole right) : Whole (.binary operator left right)

/-- The exact value of an expression of whole numbers. -/
def whole? : Expression → Option Int
  | .integer number => some number
  | .unary operator operand => operand.whole?.bind operator.whole?
  | .binary operator left right =>
      left.whole?.bind fun left => right.whole?.bind fun right => operator.whole? left right
  | _ => none

/-- An expression, its operands, the operands of these, and so on. -/
def parts : Expression → List Expression
  | .unary operator operand => .unary operator operand :: operand.parts
  | .binary operator left right => .binary operator left right :: (left.parts ++ right.parts)
  | expression => [expression]

theorem mem_parts (expression : Expression) : expression ∈ expression.parts := by
  cases expression <;> simp [parts]

/-- No part has an exact value beyond the whole numbers that doubles count without a gap. -/
def Modest (expression : Expression) : Prop :=
  ∀ part ∈ expression.parts, ∀ n, part.whole? = some n → n.natAbs ≤ wholeBound

/-- A division whose divisor has the value zero. -/
def IsDivisionByZero : Expression → Prop
  | .binary operator _ divisor => operator ∈ BinaryOperator.dividing ∧ divisor.whole? = some 0
  | _ => False

def DividesByZero (expression : Expression) : Prop :=
  ∃ part ∈ expression.parts, part.IsDivisionByZero

section Parts

variable {operator : BinaryOperator} {sign : UnaryOperator} {inner first second : Expression}

theorem Modest.operand (modest : Modest (.unary sign inner)) : Modest inner :=
  fun part member => modest part (.tail _ member)

theorem Modest.left (modest : Modest (.binary operator first second)) : Modest first :=
  fun part member => modest part (.tail _ (List.mem_append_left _ member))

theorem Modest.right (modest : Modest (.binary operator first second)) : Modest second :=
  fun part member => modest part (.tail _ (List.mem_append_right _ member))

theorem dividesByZero_unary_iff : DividesByZero (.unary sign inner) ↔ DividesByZero inner := by
  simp [DividesByZero, parts, IsDivisionByZero]

theorem dividesByZero_binary_iff :
    DividesByZero (.binary operator first second) ↔
      (operator ∈ BinaryOperator.dividing ∧ second.whole? = some 0) ∨
        DividesByZero first ∨ DividesByZero second := by
  simp only [DividesByZero, parts, List.mem_cons, List.mem_append, or_and_right, exists_or,
    exists_eq_left, IsDivisionByZero]

end Parts

/-- An expression of whole numbers has an exact value unless it divides by zero. -/
theorem whole?_eq_none_iff {expression : Expression} (whole : Whole expression) :
    expression.whole? = none ↔ DividesByZero expression := by
  induction whole with
  | integer number => simp [whole?, DividesByZero, parts, IsDivisionByZero]
  | @unary operator operand known inside induction =>
      rw [dividesByZero_unary_iff, ← induction, whole?]
      cases operand.whole? with
      | none => simp
      | some a =>
          cases operator with
          | plus | minus => simp [UnaryOperator.whole?]
          | invert | not => simp [UnaryOperator.arithmetic] at known
  | @binary operator left right known leftInside rightInside leftInduction rightInduction =>
      rw [dividesByZero_binary_iff, ← leftInduction, ← rightInduction, whole?]
      cases left.whole? with
      | none => simp
      | some a =>
          cases right.whole? with
          | none => simp
          | some b => simp [BinaryOperator.whole?_eq_none_iff known]

/-! ## Evaluation -/

/-- What goes wrong in a division of whole numbers by zero. -/
def zeroDivisions : List Quantity.Fault := [.floorDivision, .remainder]

/-- An evaluation that comes to an exact value, or to a division by zero if there is none. -/
def Evaluates (result : Except Error Quantity) : Option Int → Prop
  | some n => ∃ x, result = .ok (.real x) ∧ x.integer? = some n
  | none => ∃ fault ∈ zeroDivisions, result = .error (.arithmetic fault)

theorem evaluates_ofInteger {number : Nat} (small : number ≤ wholeBound) :
    Evaluates (ofInteger number) (some number) := by
  have whole : (Double.ofNat number).integer? = some (number : Int) :=
    Double.integer?_round false (Double.whole?_self number) small
  rcases Double.exists_finite_of_integer? whole with ⟨s, m, e, finite⟩
  refine ⟨Double.ofNat number, ?_, whole⟩
  rw [ofInteger, finite]

theorem evaluates_unary {operator : UnaryOperator} {x : Double} {a : Int}
    (known : operator ∈ UnaryOperator.arithmetic) (whole : x.integer? = some a) :
    Evaluates (UnaryOperator.apply operator (.real x)) (operator.whole? a) := by
  cases operator with
  | plus => exact ⟨x, rfl, whole⟩
  | minus => exact ⟨-x, rfl, Double.integer?_neg whole⟩
  | invert | not => simp [UnaryOperator.arithmetic] at known

theorem evaluates_unless_zero {divisor result : Double} {b n : Int} {fault : Quantity.Fault}
    (member : fault ∈ zeroDivisions) (whole : divisor.integer? = some b)
    (exact : b ≠ 0 → result.integer? = some n) :
    Evaluates
      ((if divisor.isZero then .error fault else .ok (.real result) :
        Except Quantity.Fault Quantity).mapError .arithmetic)
      (if b = 0 then none else some n) := by
  have zero := Double.isZero_iff_of_integer? whole
  by_cases none : b = 0
  · rw [if_pos none, if_pos (zero.mpr none)]
    exact ⟨fault, member, rfl⟩
  · rw [if_neg none, if_neg (mt zero.mp none)]
    exact ⟨result, rfl, exact none⟩

/-- Every operator comes to the exact value on whole doubles. -/
theorem evaluates_binary {operator : BinaryOperator} {x y : Double} {a b : Int}
    (known : operator ∈ BinaryOperator.whole)
    (left : x.integer? = some a) (right : y.integer? = some b)
    (leftSmall : a.natAbs ≤ wholeBound) (rightSmall : b.natAbs ≤ wholeBound)
    (small : ∀ n, operator.whole? a b = some n → n.natAbs ≤ wholeBound) :
    Evaluates (BinaryOperator.apply operator (.real x) (.real y)) (operator.whole? a b) := by
  cases operator with
  | add => exact ⟨x + y, rfl, Double.integer?_add left right (small _ rfl)⟩
  | subtract => exact ⟨x - y, rfl, Double.integer?_sub left right (small _ rfl)⟩
  | multiply => exact ⟨x * y, rfl, Double.integer?_mul left right (small _ rfl)⟩
  | floorDivide =>
      exact evaluates_unless_zero (by decide) right fun nonzero =>
        Double.integer?_floorQuotient left right nonzero leftSmall
  | remainder =>
      exact evaluates_unless_zero (by decide) right fun nonzero =>
        Double.integer?_floorRemainder left right nonzero leftSmall rightSmall
  | divide | power | matrixMultiply | leftShift | rightShift | bitOr | bitXor | bitAnd =>
      simp [BinaryOperator.whole] at known

theorem Evaluates.bind {result : Except Error Quantity} {exact : Option Int}
    {next : Quantity → Except Error Quantity} {after : Int → Option Int}
    (evaluated : Evaluates result exact)
    (followed : ∀ x a, exact = some a → x.integer? = some a →
      Evaluates (next (.real x)) (after a)) :
    Evaluates (result >>= next) (exact.bind after) := by
  cases exact with
  | none =>
      rcases evaluated with ⟨fault, member, rfl⟩
      exact ⟨fault, member, rfl⟩
  | some a =>
      rcases evaluated with ⟨x, rfl, whole⟩
      exact followed x a rfl whole

/-- What has a modest exact value evaluates to it, and what divides by zero to an error. -/
theorem evaluates_value {expression : Expression} (whole : Whole expression)
    (modest : Modest expression) : Evaluates expression.value expression.whole? := by
  induction whole with
  | integer number =>
      rw [value, whole?]
      exact evaluates_ofInteger (modest _ (mem_parts _) number rfl)
  | unary known inside induction =>
      rw [value, whole?]
      exact (induction modest.operand).bind fun x a _ whole => evaluates_unary known whole
  | @binary operator left right known leftInside rightInside leftInduction rightInduction =>
      have small := modest _ (mem_parts _)
      rw [value, whole?]
      refine (leftInduction modest.left).bind fun x a leftExact leftWhole => ?_
      refine (rightInduction modest.right).bind fun y b rightExact rightWhole => ?_
      refine evaluates_binary known leftWhole rightWhole (modest.left _ (mem_parts _) a leftExact)
        (modest.right _ (mem_parts _) b rightExact) fun n exact => small n ?_
      rw [whole?, leftExact, rightExact]
      exact exact

/-! ## Fixed texts -/

/-- Whether two expressions of whole numbers are the same, to be decided. Equality is not
derived, since expressions hold lists of expressions. -/
def agrees : Expression → Expression → Bool
  | .integer m, .integer n => m == n
  | .unary s inner, .unary t other => s == t && inner.agrees other
  | .binary o left right, .binary p first second =>
      o == p && left.agrees first && right.agrees second
  | _, _ => false

theorem eq_of_agrees {expression other : Expression} (same : expression.agrees other = true) :
    expression = other := by
  induction expression, other using agrees.induct with
  | case1 m n => rw [beq_iff_eq.mp same]
  | case2 s inner t other induction =>
      rcases Bool.and_eq_true_iff.mp same with ⟨operators, operands⟩
      rw [beq_iff_eq.mp operators, induction operands]
  | case3 o left right p first second leftInduction rightInduction =>
      simp only [agrees, Bool.and_eq_true, beq_iff_eq] at same
      rw [same.1.1, leftInduction same.1.2, rightInduction same.2]
  | case4 => simp [agrees] at same

theorem ofText?_eq_of_agrees {text : String} {expression : Expression}
    (same : (ofText? text).any (agrees expression) = true) : ofText? text = some expression := by
  rcases (Option.any_eq_true _ _).mp same with ⟨found, read, same⟩
  rw [read, eq_of_agrees same]

end Expression

namespace Perform

open Expression (Whole Modest DividesByZero ofText?)

/-- The calculation of an expression of whole numbers stores its exact value in decimal digits.
If the expression divides by zero, it fails with a message and changes nothing. -/
theorem calculate_whole {given : Given} {text : String} {expression : Expression}
    (asked : given.settings.text "expr" = text) (read : ofText? text = some expression)
    (whole : Whole expression) (modest : Modest expression) (state : State) :
    (¬DividesByZero expression → ∃ n, expression.whole? = some n ∧
        (calculate given).outcome state = (some (.ok .done), { state with
          bindings := state.bindings.set (given.settings.text "var") (.scalar (toString n)) })) ∧
      (DividesByZero expression → ∃ fault ∈ Expression.zeroDivisions,
        (calculate given).outcome state =
          (some (.ok (.failed [s!"Failed to evaluate expression '{text}': {fault.message}"])),
            state)) := by
  have evaluated := Expression.evaluates_value whole modest
  rw [← Expression.evaluate_of_read read] at evaluated
  rw [← Expression.whole?_eq_none_iff whole]
  cases exact : expression.whole? with
  | some n =>
      rw [exact] at evaluated
      rcases evaluated with ⟨x, ended, digits⟩
      refine ⟨fun _ => ⟨n, rfl, ?_⟩, fun none => by cases none⟩
      rw [← Double.writeResult_of_integer? digits]
      simp only [calculate, asked, ended, realOf, Run.ofExcept, pure_bind]
      rfl
  | none =>
      rw [exact] at evaluated
      rcases evaluated with ⟨fault, member, ended⟩
      refine ⟨fun some => absurd rfl some, fun _ => ⟨fault, member, ?_⟩⟩
      have kind : (Expression.Error.arithmetic fault).kind = .division := by
        rcases List.mem_pair.mp member with rfl | rfl <;> rfl
      simp only [calculate, asked, ended, kind]
      rfl

/-! ## Two calculations -/

def requested (text : String) : Given :=
  ⟨⟨[("expr", .text text), ("var", .text "n")]⟩, [], none, []⟩

def startingState : State := .initial .empty ⟨.directory .nil, []⟩

/-- The sum of a quotient and of a remainder, neither of them exact. -/
def roundedDown : Expression :=
  .binary .add (.binary .floorDivide (.unary .minus (.integer 7)) (.integer 2))
    (.binary .remainder (.unary .minus (.integer 7)) (.unary .minus (.integer 4)))

/-- A remainder whose divisor only comes to zero. -/
def zeroRemainder : Expression :=
  .binary .remainder (.integer 1) (.binary .subtract (.integer 2) (.integer 2))

theorem calculate_whole_rounded_and_failing :
    (calculate (requested "-7 // 2 + -7 % -4")).outcome startingState = (some (.ok .done),
        { startingState with bindings := startingState.bindings.set "n" (.scalar "-7") }) ∧
      ∃ fault ∈ Expression.zeroDivisions,
        (calculate (requested "1 % (2 - 2)")).outcome startingState =
          (some (.ok (.failed [s!"Failed to evaluate expression '1 % (2 - 2)': {fault.message}"])),
            startingState) := by
  have asked (text : String) : (requested text).settings.text "expr" = text := rfl
  have read : ofText? "-7 // 2 + -7 % -4" = some roundedDown :=
    Expression.ofText?_eq_of_agrees (by decide +kernel)
  have readZero : ofText? "1 % (2 - 2)" = some zeroRemainder :=
    Expression.ofText?_eq_of_agrees (by decide +kernel)
  have whole : Whole roundedDown := by repeat constructor
  have wholeZero : Whole zeroRemainder := by repeat constructor
  have modest : Modest roundedDown := by
    unfold Modest
    decide
  have modestZero : Modest zeroRemainder := by
    unfold Modest
    decide
  constructor
  · have defined : ¬DividesByZero roundedDown := by
      rw [← Expression.whole?_eq_none_iff whole]
      decide
    rcases (calculate_whole (asked _) read whole modest startingState).1 defined with
      ⟨n, exact, ended⟩
    cases exact
    exact ended
  · have divides : DividesByZero zeroRemainder := by
      rw [← Expression.whole?_eq_none_iff wholeZero]
      decide
    exact (calculate_whole (asked _) readZero wholeZero modestZero startingState).2 divides

end Perform

end Runbook
