import Runbook.Expression.Evaluate
import Runbook.Proofs.Results

/-! # What evaluation looks at

The language in which expressions are read is larger than arithmetic, and evaluation is
what refuses the rest of it. It looks at every part of an expression but one: the keyword
arguments of a call are neither evaluated nor refused. So an expression that has a value is
arithmetic up to keyword arguments, and has the value that it has without them.
-/

namespace Runbook

def UnaryOperator.arithmetic : List UnaryOperator := [.plus, .minus]

def BinaryOperator.arithmetic : List BinaryOperator :=
  [.add, .subtract, .multiply, .divide, .floorDivide, .remainder, .power]

namespace Expression

/-- Arithmetic: numbers, named constants, operations, and calls of known functions by their
names with nothing but arguments in order. -/
inductive Arithmetic : Expression → Prop
  | integer (number : Nat) : Arithmetic (.integer number)
  | decimal (number : Double) : Arithmetic (.decimal number)
  | name {constant : String} (known : constant ∈ constants.map Prod.fst) :
      Arithmetic (.name constant)
  | unary {operator : UnaryOperator} {operand : Expression}
      (known : operator ∈ UnaryOperator.arithmetic) (checked : Arithmetic operand) :
      Arithmetic (.unary operator operand)
  | binary {operator : BinaryOperator} {left right : Expression}
      (known : operator ∈ BinaryOperator.arithmetic) (leftChecked : Arithmetic left)
      (rightChecked : Arithmetic right) : Arithmetic (.binary operator left right)
  | call {called : String} {arguments : List Expression}
      (known : called ∈ Function.names.map Prod.fst)
      (checked : ∀ argument ∈ arguments, Arithmetic argument) :
      Arithmetic (.call (.name called) arguments [])

/-- An expression without the keyword arguments of the calls in it. -/
def withoutKeywords : Expression → Expression
  | .unary operator operand => .unary operator operand.withoutKeywords
  | .binary operator left right => .binary operator left.withoutKeywords right.withoutKeywords
  | .call callee arguments _ => .call callee (arguments.map withoutKeywords) []
  | .integer number => .integer number
  | .decimal number => .decimal number
  | .literal => .literal
  | .name constant => .name constant
  | .construct => .construct

/-- The expression that a text is, if it is one. -/
def ofText? (text : String) : Option Expression :=
  let text := Text.strip text.toList
  if text.contains '\x00' then none else parse? text

theorem evaluate_of_read {text : String} {expression : Expression}
    (read : ofText? text = some expression) : evaluate text = expression.value := by
  simp only [ofText?] at read
  simp only [evaluate]
  split at read
  · cases read
  · rename_i readable
    rw [if_neg readable, read]

theorem value_call (callee : Expression) (arguments keywords : List Expression) :
    (Expression.call callee arguments keywords).value = (do
      let function ← calledFunction callee
      let arguments ← arguments.mapM value
      let result ← (function.call arguments).mapError Error.function
      return .real result) := by
  rw [value]
  simp

theorem mem_names_of_lookup {α : Type} {entries : List (String × α)} {name : String} {entry : α}
    (found : entries.lookup name = some entry) : name ∈ entries.map Prod.fst := by
  rcases List.lookup_eq_some_iff.mp found with ⟨before, after, rfl, -⟩
  simp

/-! ## Values -/

theorem UnaryOperator.mem_arithmetic_of_apply {operator : UnaryOperator} {operand result : Quantity}
    (applied : UnaryOperator.apply operator operand = .ok result) :
    operator ∈ UnaryOperator.arithmetic := by
  cases operator with
  | plus | minus => decide
  | invert | not => cases applied

theorem BinaryOperator.mem_arithmetic_of_apply {operator : BinaryOperator}
    {left right result : Quantity} (applied : BinaryOperator.apply operator left right = .ok result) :
    operator ∈ BinaryOperator.arithmetic := by
  cases operator with
  | add | subtract | multiply | divide | floorDivide | remainder | power => decide
  | matrixMultiply | leftShift | rightShift | bitOr | bitXor | bitAnd => cases applied

theorem exists_name_of_calledFunction {callee : Expression} {function : Function}
    (found : calledFunction callee = .ok function) :
    ∃ called ∈ Function.names.map Prod.fst, callee = .name called := by
  cases callee with
  | name called =>
      simp only [calledFunction] at found
      split at found
      · exact ⟨called, mem_names_of_lookup ‹_›, rfl⟩
      · cases found
  | _ => cases found

/-- What has a value is arithmetic, its keyword arguments aside. -/
theorem arithmetic_of_value {expression : Expression} {quantity : Quantity}
    (valued : expression.value = .ok quantity) : Arithmetic expression.withoutKeywords := by
  induction expression using value.induct generalizing quantity with
  | case1 number => simpa only [withoutKeywords] using .integer number
  | case2 number => simpa only [withoutKeywords] using .decimal number
  | case3 | case9 => rw [value] at valued; cases valued
  | case4 constant number found =>
      simpa only [withoutKeywords] using .name (mem_names_of_lookup found)
  | case5 constant missing =>
      rw [value, missing] at valued
      cases valued
  | case6 operator operand induction =>
      rw [value] at valued
      rcases Results.bind_eq_ok_iff.mp valued with ⟨inner, valued, applied⟩
      rw [withoutKeywords]
      exact .unary (UnaryOperator.mem_arithmetic_of_apply applied) (induction valued)
  | case7 operator left right leftInduction rightInduction =>
      rw [value] at valued
      rcases Results.bind_eq_ok_iff.mp valued with ⟨first, leftValued, valued⟩
      rcases Results.bind_eq_ok_iff.mp valued with ⟨second, rightValued, applied⟩
      rw [withoutKeywords]
      exact .binary (BinaryOperator.mem_arithmetic_of_apply applied) (leftInduction leftValued)
        (rightInduction rightValued)
  | case8 callee arguments keywords induction =>
      rw [value_call] at valued
      rcases Results.bind_eq_ok_iff.mp valued with ⟨function, found, valued⟩
      rcases Results.bind_eq_ok_iff.mp valued with ⟨values, evaluated, -⟩
      rcases exists_name_of_calledFunction found with ⟨called, known, rfl⟩
      rw [withoutKeywords]
      refine .call known fun argument member => ?_
      rcases List.mem_map.mp member with ⟨written, given, rfl⟩
      rcases Results.exists_ok_of_mapM evaluated written given with ⟨quantity, valued⟩
      exact induction written given valued

/-- Keyword arguments make no difference, whatever stands in them. -/
theorem value_withoutKeywords (expression : Expression) :
    expression.withoutKeywords.value = expression.value := by
  induction expression using value.induct with
  | case6 operator operand induction => rw [withoutKeywords, value, value, induction]
  | case7 operator left right leftInduction rightInduction =>
      rw [withoutKeywords, value, value, leftInduction, rightInduction]
  | case8 callee arguments keywords induction =>
      have same : (arguments.map withoutKeywords).mapM value = arguments.mapM value := by
        rw [List.mapM_map]
        exact Results.mapM_congr induction
      rw [withoutKeywords, value_call, value_call, same]
  | _ => rw [withoutKeywords]

/-- There is nothing to leave out of arithmetic. -/
theorem Arithmetic.withoutKeywords_eq {expression : Expression} (checked : Arithmetic expression) :
    expression.withoutKeywords = expression := by
  induction checked with
  | integer | decimal | name => rw [withoutKeywords]
  | unary _ _ induction => rw [withoutKeywords, induction]
  | binary _ _ _ leftInduction rightInduction =>
      rw [withoutKeywords, leftInduction, rightInduction]
  | call _ _ induction => rw [withoutKeywords, List.map_congr_left induction, List.map_id']

/-! ## Errors -/

theorem Quantity.Fault.kind_ne_reading (fault : Quantity.Fault) : fault.kind ≠ .reading := by
  cases fault <;> simp [Quantity.Fault.kind]

theorem UnaryOperator.kind_of_apply {operator : UnaryOperator} {operand : Quantity} {error : Error}
    (failed : UnaryOperator.apply operator operand = .error error) : error.kind = .refusal := by
  cases operator with
  | plus | minus => cases failed
  | invert | not =>
      cases failed
      rfl

theorem BinaryOperator.kind_of_apply {operator : BinaryOperator} {left right : Quantity}
    {error : Error} (failed : BinaryOperator.apply operator left right = .error error) :
    error.kind ≠ .reading := by
  have arithmetic {result : Except Quantity.Fault Quantity}
      (failed : result.mapError Error.arithmetic = .error error) : error.kind ≠ .reading := by
    rcases Results.mapError_eq_error_iff.mp failed with ⟨fault, -, rfl⟩
    exact Quantity.Fault.kind_ne_reading fault
  cases operator with
  | add | subtract | multiply => cases failed
  | divide | floorDivide | remainder | power => exact arithmetic failed
  | matrixMultiply | leftShift | rightShift | bitOr | bitXor | bitAnd =>
      cases failed
      decide

theorem kind_of_calledFunction {callee : Expression} {error : Error}
    (failed : calledFunction callee = .error error) : error.kind = .refusal := by
  cases callee with
  | name called =>
      simp only [calledFunction] at failed
      split at failed
      · cases failed
      · cases failed
        rfl
  | _ =>
      cases failed
      rfl

/-- What has no value is refused, or its arithmetic fails. -/
theorem kind_of_value {expression : Expression} {error : Error}
    (failed : expression.value = .error error) : error.kind ≠ .reading := by
  induction expression using value.induct with
  | case1 number =>
      rw [value, ofInteger] at failed
      split at failed
      · cases failed
        decide
      · cases failed
  | case2 => rw [value] at failed; cases failed
  | case3 | case9 =>
      rw [value] at failed
      cases failed
      decide
  | case4 constant number found =>
      rw [value, found] at failed
      cases failed
  | case5 constant missing =>
      rw [value, missing] at failed
      cases failed
      simp [Error.kind]
  | case6 operator operand induction =>
      rw [value] at failed
      rcases Results.bind_eq_error_iff.mp failed with inner | ⟨_, _, applied⟩
      · exact induction inner
      · rw [UnaryOperator.kind_of_apply applied]
        decide
  | case7 operator left right leftInduction rightInduction =>
      rw [value] at failed
      rcases Results.bind_eq_error_iff.mp failed with first | ⟨_, _, failed⟩
      · exact leftInduction first
      · rcases Results.bind_eq_error_iff.mp failed with second | ⟨_, _, applied⟩
        · exact rightInduction second
        · exact BinaryOperator.kind_of_apply applied
  | case8 callee arguments keywords induction =>
      rw [value_call] at failed
      rcases Results.bind_eq_error_iff.mp failed with unknown | ⟨_, _, failed⟩
      · rw [kind_of_calledFunction unknown]
        decide
      · rcases Results.bind_eq_error_iff.mp failed with inner | ⟨_, _, failed⟩
        · rcases Results.exists_error_of_mapM inner with ⟨argument, member, failed⟩
          exact induction argument member failed
        · rcases Results.bind_eq_error_iff.mp failed with called | ⟨_, _, ended⟩
          · rcases Results.mapError_eq_error_iff.mp called with ⟨fault, -, rfl⟩
            simp [Error.kind]
          · cases ended

/-! ## Texts -/

/-- Of a text that is an expression, everything is checked but the keyword arguments of
calls. If it has no value, it is refused or its arithmetic fails. If it has one, it is
arithmetic apart from its keyword arguments, and these make no difference to the value; it
is arithmetic altogether exactly if it has none. -/
theorem evaluate_checks_all_but_keywords {text : String} {expression : Expression}
    (read : ofText? text = some expression) :
    (∀ error, evaluate text = .error error → error.kind ≠ .reading) ∧
      ∀ quantity, evaluate text = .ok quantity →
        Arithmetic expression.withoutKeywords ∧
          expression.withoutKeywords.value = .ok quantity ∧
            (Arithmetic expression ↔ expression.withoutKeywords = expression) := by
  rw [evaluate_of_read read]
  refine ⟨fun error failed => kind_of_value failed, fun quantity valued => ?_⟩
  have checked := arithmetic_of_value valued
  refine ⟨checked, ?_, fun arithmetic => arithmetic.withoutKeywords_eq, fun same => ?_⟩
  · rw [value_withoutKeywords, valued]
  · rw [← same]
    exact checked

/-- A call with a keyword argument that is itself no arithmetic. -/
def keywordCall : Expression :=
  .call (.name "abs") [.unary .minus (.integer 3)] [.name "undefined"]

/-- Equality with `keywordCall`, to be decided: expressions hold lists of expressions, and
their equality is not derived. -/
def isKeywordCall : Expression → Bool
  | .call (.name called) [.unary .minus (.integer 3)] [.name unknown] =>
      called == "abs" && unknown == "undefined"
  | _ => false

theorem eq_keywordCall_of_isKeywordCall {expression : Expression}
    (same : isKeywordCall expression) : expression = keywordCall := by
  unfold isKeywordCall at same
  split at same
  · simp only [Bool.and_eq_true, beq_iff_eq] at same
    rw [same.1, same.2, keywordCall]
  · cases same

theorem ofText?_keywordCall : ofText? "abs(-3, x=undefined)" = some keywordCall := by
  have read : (ofText? "abs(-3, x=undefined)").any isKeywordCall := by
    decide +kernel
  rcases (Option.any_eq_true _ _).mp read with ⟨expression, found, same⟩
  rw [found, eq_keywordCall_of_isKeywordCall same]

theorem value_keywordCall : keywordCall.value = .ok (.real (.ofNat 3)) := by
  have evaluated : [unary .minus (.integer 3)].mapM value = .ok [.real (-(.ofNat 3))] := by
    simp only [List.mapM_cons, List.mapM_nil, value]
    rfl
  rw [keywordCall, value_call, evaluated]
  rfl

/-- The argument is neither evaluated, which it could not be, nor refused. -/
theorem evaluate_checks_all_but_keywords_unknown :
    evaluate "abs(-3, x=undefined)" = .ok (.real (.ofNat 3)) ∧
      Arithmetic keywordCall.withoutKeywords ∧ ¬Arithmetic keywordCall := by
  have evaluated : evaluate "abs(-3, x=undefined)" = .ok (.real (.ofNat 3)) := by
    rw [evaluate_of_read ofText?_keywordCall, value_keywordCall]
  rcases (evaluate_checks_all_but_keywords ofText?_keywordCall).2 _ evaluated with
    ⟨checked, -, whole⟩
  refine ⟨evaluated, checked, fun arithmetic => ?_⟩
  have same := whole.mp arithmetic
  simp [keywordCall, withoutKeywords] at same

end Expression

end Runbook
