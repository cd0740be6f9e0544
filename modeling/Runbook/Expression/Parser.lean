import Runbook.Expression.Literal
import Runbook.Expression.Syntax

/-!
Reading expressions. The grammar has one function for each of its levels, from
conditional expressions down to names and literals. All of them take a bound on
how deep they may call each other; the bound given for a whole text is never
reached.
-/

namespace Runbook.Expression

/-- A reader of some of the tokens, which fails where the grammar is violated. -/
abbrev Reader (α : Type) := StateT (List Token) Option α

namespace Reader

def sees (token : Token) : Reader Bool := do return (← get).head? == some token

def seesSymbol (symbol : String) : Reader Bool := sees (.symbol symbol)

def seesKeyword (word : String) : Reader Bool := sees (.keyword word)

def take? (token : Token) : Reader Bool := do
  if ← sees token then
    modify List.tail
    return true
  else return false

def takeSymbol? (symbol : String) : Reader Bool := take? (.symbol symbol)

def takeKeyword? (word : String) : Reader Bool := take? (.keyword word)

def expect (token : Token) : Reader Unit := do
  if ← take? token then return () else failure

def expectSymbol (symbol : String) : Reader Unit := expect (.symbol symbol)

def takeName : Reader (List Char) := do
  match ← get with
  | .name text :: rest =>
      set rest
      return text
  | _ => failure

def seesNameThen (symbol : String) : Reader Bool := do
  match ← get with
  | .name _ :: second :: _ => return second == .symbol symbol
  | _ => return false

/-- Whether the clauses of a comprehension start here. -/
def seesClauses : Reader Bool := do return (← seesKeyword "for") || (← seesKeyword "async")

/-- Items up to a closing symbol, separated by commas of which one may stand
behind the last item. -/
def separated (item : Reader α) (closing : String) : (fuel : Nat) → Reader (List α)
  | 0 => failure
  | fuel + 1 => do
      if ← takeSymbol? closing then return []
      else
        let first ← item
        if ← takeSymbol? "," then
          let rest ← separated item closing fuel
          return first :: rest
        else
          expectSymbol closing
          return [first]

end Reader

namespace Grammar

open Reader

/-- The operators of each level, from the loosest to the tightest. -/
def operatorsAt : (level : Nat) → List (String × BinaryOperator)
  | 0 => [("|", .bitOr)]
  | 1 => [("^", .bitXor)]
  | 2 => [("&", .bitAnd)]
  | 3 => [("<<", .leftShift), (">>", .rightShift)]
  | 4 => [("+", .add), ("-", .subtract)]
  | _ => [("*", .multiply), ("/", .divide), ("//", .floorDivide), ("%", .remainder),
      ("@", .matrixMultiply)]

def tightestLevel : Nat := 5

def takeOperator? (level : Nat) : Reader (Option BinaryOperator) := do
  match ← get with
  | .symbol symbol :: rest =>
      match (operatorsAt level).lookup symbol with
      | some operator =>
          set rest
          return some operator
      | none => return none
  | _ => return none

def takeUnary? : Reader (Option UnaryOperator) := do
  if ← takeSymbol? "+" then return some .plus
  else if ← takeSymbol? "-" then return some .minus
  else if ← takeSymbol? "~" then return some .invert
  else return none

def takeComparison? : Reader Bool := do
  match ← get with
  | .keyword "not" :: .keyword "in" :: rest => set rest; return true
  | .keyword "is" :: .keyword "not" :: rest => set rest; return true
  | .keyword "is" :: rest => set rest; return true
  | .keyword "in" :: rest => set rest; return true
  | .symbol symbol :: rest =>
      if ["==", "!=", "<=", "<", ">=", ">"].contains symbol then
        set rest
        return true
      else return false
  | _ => return false

inductive Ending
  | bare
  | place
  | call
  deriving DecidableEq

/-- How far the parameters of an anonymous function have come. -/
structure ParameterState where
  any : Bool := false
  default : Bool := false
  slash : Bool := false
  star : Bool := false
  nameOwed : Bool := false

/-- How far the arguments of a call have come. -/
structure ArgumentState where
  positional : List Expression := []
  keywords : List Expression := []
  unpacked : Bool := false

mutual

/-- A conditional expression, an anonymous function or something tighter. -/
def expression : (fuel : Nat) → Reader Expression
  | 0 => failure
  | fuel + 1 => do
      if ← takeKeyword? "lambda" then
        parameters fuel {}
        let _ ← expression fuel
        return .construct
      else
        let value ← disjunction fuel
        if ← takeKeyword? "if" then
          let _ ← disjunction fuel
          expect (.keyword "else")
          let _ ← expression fuel
          return .construct
        else return value

/-- An expression that may bind a name, and whether it does. -/
def named : (fuel : Nat) → Reader (Expression × Bool)
  | 0 => failure
  | fuel + 1 => do
      if ← seesNameThen ":=" then
        modify (List.drop 2)
        let _ ← expression fuel
        return (.construct, true)
      else
        let value ← expression fuel
        if ← seesSymbol ":=" then failure else return (value, false)

/-- An expression or an unpacked one, and whether it is unpacked. -/
def element : (fuel : Nat) → Reader (Expression × Bool)
  | 0 => failure
  | fuel + 1 => do
      if ← takeSymbol? "*" then
        let _ ← binary fuel 0
        return (.construct, true)
      else
        let (value, _) ← named fuel
        return (value, false)

def disjunction : (fuel : Nat) → Reader Expression
  | 0 => failure
  | fuel + 1 => do
      let value ← conjunction fuel
      if ← takeKeyword? "or" then
        let _ ← disjunction fuel
        return .construct
      else return value

def conjunction : (fuel : Nat) → Reader Expression
  | 0 => failure
  | fuel + 1 => do
      let value ← inversion fuel
      if ← takeKeyword? "and" then
        let _ ← conjunction fuel
        return .construct
      else return value

def inversion : (fuel : Nat) → Reader Expression
  | 0 => failure
  | fuel + 1 => do
      if ← takeKeyword? "not" then return .unary .not (← inversion fuel)
      else comparison fuel

def comparison : (fuel : Nat) → Reader Expression
  | 0 => failure
  | fuel + 1 => do
      let value ← binary fuel 0
      if ← takeComparison? then
        let _ ← comparison fuel
        return .construct
      else return value

/-- Operations of a level and of all tighter ones. -/
def binary : (fuel level : Nat) → Reader Expression
  | 0, _ => failure
  | fuel + 1, level => do
      if tightestLevel < level then factor fuel
      else operations fuel level (← binary fuel (level + 1))

/-- The operations of one level that follow a left operand. -/
def operations : (fuel level : Nat) → Expression → Reader Expression
  | 0, _, _ => failure
  | fuel + 1, level, left => do
      match ← takeOperator? level with
      | some operator =>
          let right ← binary fuel (level + 1)
          operations fuel level (.binary operator left right)
      | none => return left

def factor : (fuel : Nat) → Reader Expression
  | 0 => failure
  | fuel + 1 => do
      match ← takeUnary? with
      | some operator => return .unary operator (← factor fuel)
      | none =>
          let awaited ← takeKeyword? "await"
          let (base, _) ← primary fuel
          let base := if awaited then .construct else base
          if ← takeSymbol? "**" then return .binary .power base (← factor fuel)
          else return base

/-- An atom with the calls, attributes and subscripts behind it. -/
def primary : (fuel : Nat) → Reader (Expression × Ending)
  | 0 => failure
  | fuel + 1 => do trailers fuel (← atom fuel) .bare

def trailers : (fuel : Nat) → Expression → Ending → Reader (Expression × Ending)
  | 0, _, _ => failure
  | fuel + 1, value, ending => do
      if ← takeSymbol? "." then
        let _ ← takeName
        trailers fuel .construct .place
      else if ← takeSymbol? "(" then
        let state ← arguments fuel {}
        trailers fuel (.call value state.positional state.keywords) .call
      else if ← takeSymbol? "[" then
        let items ← separated (slice fuel) "]" fuel
        if items.isEmpty then failure else trailers fuel .construct .place
      else return (value, ending)

def arguments : (fuel : Nat) → ArgumentState → Reader ArgumentState
  | 0, _ => failure
  | fuel + 1, state => do
      if ← takeSymbol? ")" then return state
      let state ← (do
        if ← takeSymbol? "**" then
          let value ← expression fuel
          return { state with keywords := state.keywords ++ [value], unpacked := true }
        else if ← takeSymbol? "*" then
          if state.unpacked then failure
          let _ ← expression fuel
          return { state with positional := state.positional ++ [.construct] }
        else if ← seesNameThen "=" then
          modify (List.drop 2)
          let value ← expression fuel
          return { state with keywords := state.keywords ++ [value] }
        else
          if !state.keywords.isEmpty then failure
          let (value, _) ← named fuel
          if ← seesClauses then
            clauses fuel
            if !state.positional.isEmpty || !(← seesSymbol ")") then failure
            return { state with positional := [.construct] }
          else return { state with positional := state.positional ++ [value] })
      if ← takeSymbol? "," then
        if state.positional.isEmpty && state.keywords.isEmpty then failure
        else arguments fuel state
      else
        expectSymbol ")"
        return state

/-- One part of a subscript. -/
def slice : (fuel : Nat) → Reader Unit
  | 0 => failure
  | fuel + 1 => do
      if ← takeSymbol? "*" then
        let _ ← expression fuel
        return ()
      else if ← seesSymbol ":" then bounds fuel
      else
        let (_, binds) ← named fuel
        if binds then return () else bounds fuel

def bounds : (fuel : Nat) → Reader Unit
  | 0 => failure
  | fuel + 1 => do
      if ← takeSymbol? ":" then
        let ends := (← seesSymbol ":") || (← seesSymbol ",") || (← seesSymbol "]")
        if !ends then
          let _ ← expression fuel
        if ← takeSymbol? ":" then
          let ends := (← seesSymbol ",") || (← seesSymbol "]")
          if !ends then
            let _ ← expression fuel
      return ()

def atom : (fuel : Nat) → Reader Expression
  | 0 => failure
  | fuel + 1 => do
      match ← get with
      | .integer value :: rest => set rest; return .integer value
      | .decimal value :: rest => set rest; return .decimal value
      | .imaginary :: rest => set rest; return .literal
      | .name text :: rest => set rest; return .name (String.ofList text)
      | .keyword word :: rest =>
          if ["True", "False", "None"].contains word then
            set rest
            return .literal
          else failure
      | .string kind raw body :: rest =>
          set rest
          strings fuel kind ((kind, raw, body) :: [])
      | .symbol "..." :: rest => set rest; return .literal
      | .symbol "(" :: rest => set rest; parenthesized fuel
      | .symbol "[" :: rest =>
          set rest
          if ← takeSymbol? "]" then return .construct
          let (_, unpacked) ← element fuel
          if ← seesClauses then
            if unpacked then failure
            clauses fuel
            expectSymbol "]"
          else if ← takeSymbol? "," then
            let _ ← separated (element fuel) "]" fuel
          else expectSymbol "]"
          return .construct
      | .symbol "\x7b" :: rest =>
          set rest
          braces fuel
          return .construct
      | _ => failure

/-- String literals that stand side by side make up one literal. -/
def strings : (fuel : Nat) → StringKind → List (StringKind × Bool × List Char) →
    Reader Expression
  | 0, _, _ => failure
  | fuel + 1, first, parts => do
      match ← get with
      | .string kind raw body :: rest =>
          if (kind == .bytes) != (first == .bytes) then failure
          set rest
          strings fuel first ((kind, raw, body) :: parts)
      | _ =>
          let check (text : List Char) : Bool :=
            match tokens? ('(' :: text ++ [')']) with
            | some tokens =>
                match (starred fuel).run tokens with
                | some (_, []) => true
                | _ => false
            | none => false
          if parts.all fun (kind, raw, body) => validBody check kind raw body then
            return if parts.any fun (kind, _, _) => kind == .formatted then .construct
              else .literal
          else failure

/-- What stands in round brackets: a tuple, a comprehension or a single
expression, which keeps its meaning. -/
def parenthesized : (fuel : Nat) → Reader Expression
  | 0 => failure
  | fuel + 1 => do
      if ← takeSymbol? ")" then return .construct
      if ← takeKeyword? "yield" then
        if ← takeKeyword? "from" then
          let _ ← expression fuel
        else if !(← seesSymbol ")") then starred fuel
        expectSymbol ")"
        return .construct
      let (value, unpacked) ← element fuel
      if ← seesClauses then
        if unpacked then failure
        clauses fuel
        expectSymbol ")"
        return .construct
      else if ← takeSymbol? "," then
        let _ ← separated (element fuel) ")" fuel
        return .construct
      else
        expectSymbol ")"
        if unpacked then failure else return value

/-- Expressions separated by commas, any of which may be unpacked. -/
def starred : (fuel : Nat) → Reader Unit
  | 0 => failure
  | fuel + 1 => do
      if ← takeSymbol? "*" then
        let _ ← binary fuel 0
      else
        let _ ← expression fuel
      if ← takeSymbol? "," then
        let ends := (← get).isEmpty || (← seesSymbol ")")
        if !ends then starred fuel
      return ()

/-- What stands in braces: a mapping, a set or a comprehension of either. -/
def braces : (fuel : Nat) → Reader Unit
  | 0 => failure
  | fuel + 1 => do
      if ← takeSymbol? "\x7d" then return ()
      if ← takeSymbol? "**" then
        let _ ← binary fuel 0
        pairs fuel
      else
        let starts ← get
        let (_, unpacked) ← element fuel
        let binds := match starts with
          | .name _ :: .symbol ":=" :: _ => true
          | _ => false
        if !unpacked && !binds && (← takeSymbol? ":") then
          let _ ← expression fuel
          if ← seesClauses then
            clauses fuel
            expectSymbol "\x7d"
          else pairs fuel
        else if ← seesClauses then
          if unpacked then failure
          clauses fuel
          expectSymbol "\x7d"
        else if ← takeSymbol? "," then
          let _ ← separated (element fuel) "\x7d" fuel
        else expectSymbol "\x7d"

def pairs : (fuel : Nat) → Reader Unit
  | 0 => failure
  | fuel + 1 => do
      if ← takeSymbol? "," then
        if ← takeSymbol? "\x7d" then return ()
        if ← takeSymbol? "**" then
          let _ ← binary fuel 0
        else
          let _ ← expression fuel
          expectSymbol ":"
          let _ ← expression fuel
        pairs fuel
      else expectSymbol "\x7d"

def clauses : (fuel : Nat) → Reader Unit
  | 0 => failure
  | fuel + 1 => do
      let _ ← takeKeyword? "async"
      expect (.keyword "for")
      targets fuel
      expect (.keyword "in")
      let _ ← disjunction fuel
      conditions fuel
      if ← seesClauses then clauses fuel else return ()

def conditions : (fuel : Nat) → Reader Unit
  | 0 => failure
  | fuel + 1 => do
      if ← takeKeyword? "if" then
        let _ ← disjunction fuel
        conditions fuel
      else return ()

/-- What a comprehension binds: places separated by commas. -/
def targets : (fuel : Nat) → Reader Unit
  | 0 => failure
  | fuel + 1 => do
      let _ ← target fuel
      if ← takeSymbol? "," then
        if ← seesKeyword "in" then return () else targets fuel
      else return ()

/-- One place that a value can be bound to, and whether it is unpacked. -/
def target : (fuel : Nat) → Reader Bool
  | 0 => failure
  | fuel + 1 => do
      if ← takeSymbol? "*" then
        if ← seesSymbol "*" then failure
        let _ ← target fuel
        return true
      let before ← get
      match (primary fuel).run before with
      | some ((_, .place), rest) => set rest; return false
      | some ((_, .bare), _) =>
          match before with
          | .name _ :: rest => set rest; return false
          | .symbol "(" :: rest =>
              set rest
              if ← takeSymbol? ")" then return false
              let unpacked ← target fuel
              if ← takeSymbol? "," then
                let _ ← separated (target fuel) ")" fuel
              else
                if unpacked then failure
                expectSymbol ")"
              return false
          | .symbol "[" :: rest =>
              set rest
              let _ ← separated (target fuel) "]" fuel
              return false
          | _ => failure
      | _ => failure

/-- The parameters of an anonymous function up to the colon behind them. -/
def parameters : (fuel : Nat) → ParameterState → Reader Unit
  | 0, _ => failure
  | fuel + 1, state => do
      if ← takeSymbol? ":" then
        if state.nameOwed then failure else return ()
      if ← takeSymbol? "/" then
        if !state.any || state.slash || state.star then failure
        followed fuel { state with slash := true }
      else if ← takeSymbol? "**" then
        if state.nameOwed then failure
        let _ ← takeName
        let _ ← takeSymbol? ","
        expectSymbol ":"
      else if ← takeSymbol? "*" then
        if state.star then failure
        if ← seesSymbol "," then followed fuel { state with star := true, nameOwed := true }
        else
          let _ ← takeName
          followed fuel { state with star := true }
      else
        let _ ← takeName
        let default ← takeSymbol? "="
        if default then
          let _ ← expression fuel
        else if state.default && !state.star then failure
        followed fuel {
          state with
          any := true
          default := state.default || (default && !state.star)
          nameOwed := false }

/-- The end of the parameters or a comma with further ones. -/
def followed : (fuel : Nat) → ParameterState → Reader Unit
  | 0, _ => failure
  | fuel + 1, state => do
      if ← takeSymbol? "," then parameters fuel state
      else
        expectSymbol ":"
        if state.nameOwed then failure else return ()

end

/-- A whole text: expressions separated by commas, then nothing but line ends. -/
def whole (fuel : Nat) : Reader Expression := do
  let value ← expression fuel
  let value ← (do
    if ← takeSymbol? "," then
      let ends := (← get).isEmpty || (← sees .newline)
      if !ends then
        let _ ← tuple fuel
      return Expression.construct
    else return value)
  modify fun tokens => tokens.dropWhile (· == .newline)
  if (← get).isEmpty then return value else failure
where
  /-- The further members of a tuple without brackets. -/
  tuple : (fuel : Nat) → Reader Unit
    | 0 => failure
    | fuel + 1 => do
        let _ ← expression fuel
        if ← takeSymbol? "," then
          let ends := (← get).isEmpty || (← sees .newline)
          if !ends then tuple fuel
        return ()

end Grammar

def parse? (text : List Char) : Option Expression := do
  let tokens ← tokens? text
  let fuel := 20 * (tokens.length + text.length + 2)
  return (← (Grammar.whole fuel).run tokens).1

end Runbook.Expression
