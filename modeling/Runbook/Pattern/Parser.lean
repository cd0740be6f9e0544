import Runbook.Pattern.Source
import Runbook.Text.Blank
import Runbook.Text.DecimalDigit
import Runbook.Text.WordCharacter

/-!
Reading patterns. What a piece of a pattern means depends on the flags in force,
which are resolved while reading: flags for the whole pattern may only stand at
its start. Whether every look-behind has a fixed width is checked afterwards.
-/

namespace Runbook.Pattern

structure Flags where
  ignoreCase : Bool
  multiline : Bool
  dotAll : Bool
  verbose : Bool
  ascii : Bool
  deriving DecidableEq, Repr

namespace Flags

def none : Flags := ⟨false, false, false, false, false⟩

def caseRule (flags : Flags) : CaseRule :=
  if flags.ignoreCase then if flags.ascii then .ascii else .unicode else .exact

def test (flags : Flags) (negated : Bool) (members : List Member) : Node :=
  .single ⟨negated, members, flags.caseRule, flags.ascii⟩

def literal (flags : Flags) (code : Nat) : Node := flags.test false [.range code code]

def isFlag (c : Char) : Bool := "iLmsxatu".toList.contains c

/-- The flags that select an alphabet and exclude one another. -/
def isAlphabetFlag (c : Char) : Bool := c == 'a' || c == 'L' || c == 'u'

def switch (flags : Flags) (value : Bool) (c : Char) : Flags :=
  if c == 'i' then { flags with ignoreCase := value }
  else if c == 'm' then { flags with multiline := value }
  else if c == 's' then { flags with dotAll := value }
  else if c == 'x' then { flags with verbose := value }
  else if c == 'a' then { flags with ascii := value }
  else if c == 'u' then { flags with ascii := !value }
  else flags

def switchAll (flags : Flags) (value : Bool) (letters : List Char) : Flags :=
  letters.foldl (fun flags c => flags.switch value c) flags

end Flags

open Reader

def isLetter (c : Char) : Bool :=
  Text.isAlphanumeric c && !Text.isDecimalDigit c && !Text.otherNumerals.contains c

/-! ## Escapes and sets -/

/-- A reference to a numbered group, `back` characters behind its start. -/
def readReference (flags : Flags) (number back : Nat) (missing : Reader Node) : Reader Node := do
  let state ← get
  match state.widths[number - 1]? with
  | none => missing
  | some none => fail .groupStillOpen back
  | some (some _) =>
      if state.lookBehindFrom.any (· ≤ number) then fail .groupInLookBehind 0
      else return .reference number flags.caseRule

/-- An escape that starts with a digit other than zero: three octal digits are a
character, and anything else refers to a group. -/
def readNumericEscape (flags : Flags) (c : Char) : Reader Node := do
  let second ← takeWhile Char.isDigit 1
  let third ← if isOctal c && !second.isEmpty && second.all isOctal then takeWhile isOctal 1
    else pure []
  let digits := c :: second ++ third
  if !third.isEmpty then return flags.literal (← octalCode digits)
  else
    let number := Number.digitsValue digits
    readReference flags number (digits.length + 1) (fail (.noSuchGroup number) digits.length)

def readEscape (flags : Flags) (c : Char) : Reader Node := do
  if c == 'A' then return .anchor .textStart
  else if c == 'Z' then return .anchor .textEnd
  else if c == 'b' then return .anchor (.boundary true flags.ascii)
  else if c == 'B' then return .anchor (.boundary false flags.ascii)
  else
    match category? c, controlCode? c with
    | some member, _ => return flags.test false [member]
    | none, some code => return flags.literal code
    | none, none =>
        if c == '0' then return flags.literal (octalValue (← takeWhile isOctal 2))
        else if c.isDigit then readNumericEscape flags c
        else return flags.literal (← readCode c)

/-- One end of a range in a set, and its text. -/
def readSetPiece (piece : Piece) : Reader Member := do
  match piece with
  | .escape c => readSetEscape c
  | .plain c => return .range c.toNat c.toNat

/-- The members of a set that was opened at `start`, up to its closing bracket. -/
def readMembers (start : Nat) : (fuel : Nat) → List Member → Reader (List Member)
  | 0, _ => failAt .openSet start
  | fuel + 1, members => do
      let some piece ← take | failAt .openSet start
      if piece == .plain ']' && !members.isEmpty then return members
      else
        let first ← readSetPiece piece
        if ← take? '-' then
          let some final ← take | failAt .openSet start
          if final == .plain ']' then return members ++ [first, .range 45 45]
          else
            let last ← readSetPiece final
            match first, last with
            | .range low _, .range high _ =>
                if low ≤ high then readMembers start fuel (members ++ [.range low high])
                else fail (.badRange piece.text final.text) (piece.length + 1 + final.length)
            | _, _ => fail (.badRange piece.text final.text) (piece.length + 1 + final.length)
        else readMembers start fuel (members ++ [first])

/-- A set of characters whose opening bracket has been taken. -/
def readSet (flags : Flags) : Reader Node := do
  let start := (← position) - 1
  let negated ← take? '^'
  let members ← readMembers start ((← get).source.rest.length + 2) []
  return flags.test negated members

/-! ## Repetitions -/

/-- A bound on a number of repetitions, which has to be well below 2^32. A number of
more than 4300 digits is not even read. -/
def repetitionBound (digits : List Char) : Reader (Option Nat) := do
  if digits.isEmpty then return none
  else if 4300 < digits.length then failAnywhere (.tooManyDigits digits.length)
  else
    let value := Number.digitsValue digits
    if 0xFFFFFFFF ≤ value then failAnywhere .tooManyRepetitions else return some value

/-- The bounds in braces whose opening brace has been taken. Without a result the
brace stands for itself and nothing behind it has been taken. -/
def readBounds : Reader (Option (Nat × Option Nat)) := do
  if ← sees '\x7d' then return none
  else
    let here := (← get).source
    let size := here.rest.length + 2
    let low ← takeWhile Char.isDigit size
    let separated ← take? ','
    let high ← if separated then takeWhile Char.isDigit size else pure low
    if ← take? '\x7d' then
      let least ← repetitionBound low
      let most ← repetitionBound high
      if most.any (· < least.getD 0) then failAt .boundsReversed here.position
      else return some (least.getD 0, most)
    else
      modify fun state => { state with source := here }
      return none

def boundsOf (sign : Char) : Reader (Option (Nat × Option Nat)) := do
  if sign == '?' then return some (0, some 1)
  else if sign == '*' then return some (0, none)
  else if sign == '+' then return some (1, none)
  else readBounds

def readGreed : Reader Greed := do
  if ← take? '?' then return .lazy
  else if ← take? '+' then return .possessive
  else return .greedy

/-- Repeat the last of the nodes read so far, which are held in reverse. -/
def readRepetition (flags : Flags) (sign : Char) (done : List Node) : Reader (List Node) := do
  let start := (← position) - 1
  match ← boundsOf sign with
  | none => return flags.literal sign.toNat :: done
  | some (least, most) =>
      match done with
      | [] | .anchor _ :: _ => failAt .nothingToRepeat start
      | .repetition _ _ _ _ :: _ => failAt .multipleRepeat start
      | node :: rest => return .repetition (← readGreed) least most node :: rest

/-! ## Groups -/

/-- What an opening parenthesis starts. The last three need no closing one. -/
inductive Opening
  | capture (name : Option (List Char))
  | scope (flags : Flags)
  | atomic
  | look (behind negated : Bool)
  | conditional (group : Nat)
  | reference (node : Node)
  | comment
  | globalFlags (flags : Flags)

def checkGroupName (name : List Char) : Reader Unit := do
  if Text.isIdentifier name then return ()
  else fail (.badGroupName (String.ofList name)) (name.length + 1)

def groupNamed (name : List Char) : Reader Nat := do
  match (← get).names.lookup (String.ofList name) with
  | some number => return number
  | none => fail (.unknownGroupName (String.ofList name)) (name.length + 1)

def readNamedOpening (flags : Flags) : Reader Opening := do
  if ← take? '<' then
    let name ← takeName '>' "group name"
    checkGroupName name
    return .capture (some name)
  else if ← take? '=' then
    let name ← takeName ')' "group name"
    checkGroupName name
    let number ← groupNamed name
    return .reference (← readReference flags number (name.length + 1) failure)
  else
    match ← take with
    | none => fail .unexpectedEnd 0
    | some piece => fail (.unknownExtension ("?P" ++ piece.text)) (piece.length + 2)
where
  failure : Reader Node := fail .unexpectedEnd 0

/-- The number of a group given in digits. A group that has not been opened yet
is awaited. -/
def groupNumbered (name : List Char) : Reader Nat := do
  match Number.readInteger? (String.ofList name) with
  | some (.ofNat number) =>
      if number == 0 then fail .badGroupNumber (name.length + 1)
      else if 1073741823 ≤ number then fail (.noSuchGroup number) (name.length + 1)
      else
        let place := (← position) - (name.length + 1)
        modify fun state =>
          if state.awaited.any (·.1 == number) then state
          else { state with awaited := state.awaited ++ [(number, place)] }
        return number
  | _ => fail (.badGroupName (String.ofList name)) (name.length + 1)

/-- Inside a look-behind, a condition may only ask for groups that were closed
before it. -/
def checkLookBehind (number : Nat) : Reader Unit := do
  let state ← get
  match state.lookBehindFrom with
  | none => return ()
  | some first =>
      if ((state.widths[number - 1]?).bind id).isNone then fail .groupStillOpen 0
      else if first ≤ number then fail .groupInLookBehind 0
      else return ()

def readConditionalOpening : Reader Opening := do
  let name ← takeName ')' "group name"
  let number ← if Text.isIdentifier name then groupNamed name else groupNumbered name
  checkLookBehind number
  return .conditional number

def skipComment (start : Nat) : (fuel : Nat) → Reader Unit
  | 0 => failAt .openComment start
  | fuel + 1 => do
      match ← take with
      | none => failAt .openComment start
      | some piece => if piece == .plain ')' then return () else skipComment start fuel

/-- The letters of flags up to a piece that is no flag, which is returned too. -/
def readFlagLetters (missing : Fault) (endings : List Char) (check : List Char → Reader Unit) :
    (fuel : Nat) → List Char → Reader (List Char × Char)
  | 0, _ => fail missing 0
  | fuel + 1, letters => do
      check letters
      match ← take with
      | none => fail missing 0
      | some (.plain c) =>
          if endings.contains c then return (letters, c)
          else if Flags.isFlag c then readFlagLetters missing endings check fuel (letters ++ [c])
          else fail (if isLetter c then .unknownFlag else missing) 1
      | some piece => fail missing piece.length

/-- Refuse the flag that was added last if it cannot be combined. -/
def checkAddedFlag (letters : List Char) : Reader Unit := do
  match letters.getLast? with
  | none => return ()
  | some last =>
      if last == 'L' then fail .localeFlag 0
      else if Flags.isAlphabetFlag last &&
          letters.any (fun c => Flags.isAlphabetFlag c && c != last) then
        fail .exclusiveFlags 0
      else return ()

def checkRemovedFlag (letters : List Char) : Reader Unit := do
  if letters.getLast?.any Flags.isAlphabetFlag then fail .typeFlagOff 0 else return ()

def readFlags (flags : Flags) (first : Char) : Reader Opening := do
  let size := (← get).source.rest.length + 3
  let (added, ending) ←
    if first == '-' then pure ([], '-')
    else readFlagLetters .missingFlagEnd [')', '-', ':'] checkAddedFlag size [first]
  if ending == ')' then
    modify fun state => { state with
      ascii := state.ascii || added.contains 'a'
      unicode := state.unicode || added.contains 'u'
      template := state.template || added.contains 't' }
    return .globalFlags (flags.switchAll true added)
  else if added.contains 't' then fail .globalFlagOn 1
  else if ending == '-' then
    match ← take with
    | none => fail .missingFlag 0
    | some (.plain c) =>
        if !Flags.isFlag c then fail (if isLetter c then .unknownFlag else .missingFlag) 1
        else
          let (removed, _) ← readFlagLetters .missingColon [':'] checkRemovedFlag size [c]
          if removed.contains 't' then fail .globalFlagOff 1
          else if added.any removed.contains then fail .flagOnAndOff 1
          else return .scope ((flags.switchAll true added).switchAll false removed)
    | some piece => fail .missingFlag piece.length
  else return .scope (flags.switchAll true added)

/-- What follows an opening parenthesis that stands at `start`. -/
def readOpening (flags : Flags) (start : Nat) : Reader Opening := do
  if !(← take? '?') then return .capture none
  else
    match ← take with
    | none => fail .unexpectedEnd 0
    | some (.plain c) =>
        if c == 'P' then readNamedOpening flags
        else if c == ':' then return .scope flags
        else if c == '#' then
          skipComment start ((← get).source.rest.length + 2)
          return .comment
        else if c == '=' || c == '!' then return .look false (c == '!')
        else if c == '<' then
          match ← take with
          | none => fail .unexpectedEnd 0
          | some piece =>
              if piece == .plain '=' || piece == .plain '!' then
                return .look true (piece == .plain '!')
              else fail (.unknownExtension ("?<" ++ piece.text)) (piece.length + 2)
        else if c == '(' then readConditionalOpening
        else if c == '>' then return .atomic
        else if Flags.isFlag c || c == '-' then readFlags flags c
        else fail (.unknownExtension ("?" ++ String.singleton c)) 2
    | some piece => fail (.unknownExtension ("?" ++ piece.text)) (piece.length + 1)

def openGroup (name : Option (List Char)) : Reader Nat := do
  let state ← get
  let number := state.widths.length + 1
  match name with
  | none =>
      set { state with widths := state.widths ++ [none] }
      return number
  | some name =>
      match state.names.lookup (String.ofList name) with
      | some earlier =>
          fail (.redefinedGroup (String.ofList name) number earlier) (name.length + 1)
      | none =>
          set { state with
            widths := state.widths ++ [none]
            names := state.names ++ [(String.ofList name, number)] }
          return number

def widthOf (node : Node) : Reader (Nat × Nat) := do
  let widths := (← get).widths
  return node.width fun number => ((widths[number - 1]?).bind id).getD (0, 0)

def closeGroup (number : Nat) (body : Node) : Reader Unit := do
  let width ← widthOf body
  modify fun state => { state with widths := state.widths.set (number - 1) (some width) }

/-- Take the parenthesis that closes what was opened at `start`. -/
def closeParenthesis (start : Nat) : Reader Unit := do
  if ← take? ')' then return () else failAt .openGroup start

/-- Run a reader inside a look-behind, if it is one. -/
def insideLookBehind (behind : Bool) (reader : Reader Node) : Reader Node := do
  let outer := (← get).lookBehindFrom
  if behind && outer.isNone then
    modify fun state => { state with lookBehindFrom := some (state.widths.length + 1) }
    let node ← reader
    modify fun state => { state with lookBehindFrom := none }
    return node
  else reader

/-! ## Sequences and alternatives -/

def skipLine : (fuel : Nat) → Reader Unit
  | 0 => return ()
  | fuel + 1 => do
      match ← take with
      | none => return ()
      | some piece => if piece == .plain '\n' then return () else skipLine fuel

mutual

/-- Nodes up to the end of a branch, read behind those in `done`, which are held
in reverse. `start` tells whether flags for the whole pattern may stand here. -/
def readNodes : (fuel : Nat) → (start : Bool) → Flags → (done : List Node) → Reader (Node × Flags)
  | 0, _, _, _ => fail .unexpectedEnd 0
  | fuel + 1, start, flags, done => do
      match ← next with
      | none | some (.plain '|') | some (.plain ')') => return (.ofList done.reverse, flags)
      | some piece =>
          let _ ← take
          match piece with
          | .escape c => readNodes fuel start flags ((← readEscape flags c) :: done)
          | .plain c =>
              if flags.verbose && " \t\n\r\x0b\x0c".toList.contains c then
                readNodes fuel start flags done
              else if flags.verbose && c == '#' then
                skipLine ((← get).source.rest.length + 2)
                readNodes fuel start flags done
              else if c == '[' then readNodes fuel start flags ((← readSet flags) :: done)
              else if c == '?' || c == '*' || c == '+' || c == '\x7b' then
                readNodes fuel start flags (← readRepetition flags c done)
              else if c == '.' then
                let node := if flags.dotAll then flags.test true [] else flags.test true [.range 10 10]
                readNodes fuel start flags (node :: done)
              else if c == '^' then
                let anchor := if flags.multiline then .lineStart else .textStart
                readNodes fuel start flags (.anchor anchor :: done)
              else if c == '$' then
                let anchor := if flags.multiline then .lineEnd else .lastLineEnd
                readNodes fuel start flags (.anchor anchor :: done)
              else if c == '(' then readGroup fuel start flags done
              else readNodes fuel start flags (flags.literal c.toNat :: done)

/-- A group whose opening parenthesis has been taken, and the nodes behind it. -/
def readGroup : (fuel : Nat) → (start : Bool) → Flags → (done : List Node) → Reader (Node × Flags)
  | 0, _, _, _ => fail .unexpectedEnd 0
  | fuel + 1, start, flags, done => do
      let place := (← position) - 1
      match ← readOpening flags place with
      | .comment => readNodes fuel start flags done
      | .reference node => readNodes fuel start flags (node :: done)
      | .globalFlags flags =>
          if start && done.isEmpty then readNodes fuel start flags done
          else failAt .lateFlags place
      | .capture name =>
          let number ← openGroup name
          let (body, _) ← readBranches fuel false flags
          closeParenthesis place
          closeGroup number body
          readNodes fuel start flags (.group (some number) body :: done)
      | .scope inner =>
          let (body, _) ← readBranches fuel false inner
          closeParenthesis place
          readNodes fuel start flags (.group none body :: done)
      | .atomic =>
          let (body, _) ← readBranches fuel false flags
          closeParenthesis place
          readNodes fuel start flags (.atomic body :: done)
      | .look behind negated =>
          let body ← insideLookBehind behind (do return (← readBranches fuel false flags).1)
          closeParenthesis place
          if behind then
            let (least, most) ← widthOf body
            readNodes fuel start flags (.lookBehind negated least most body :: done)
          else readNodes fuel start flags (.lookAhead negated body :: done)
      | .conditional number =>
          let (present, _) ← readNodes fuel false flags []
          let absent ← (do
            if ← take? '|' then
              let (absent, _) ← readNodes fuel false flags []
              if ← sees '|' then fail .tooManyBranches 0 else return absent
            else return .empty)
          closeParenthesis place
          readNodes fuel start flags (.conditional number present absent :: done)

def readBranches : (fuel : Nat) → (start : Bool) → Flags → Reader (Node × Flags)
  | 0, _, _ => fail .unexpectedEnd 0
  | fuel + 1, start, flags => do
      let (first, flags) ← readNodes fuel start flags []
      if ← take? '|' then
        let (second, _) ← readBranches fuel false flags
        return (.choice first second, flags)
      else return (first, flags)

end

/-! ## Whole patterns -/

def Greed.title : Greed → String
  | .greedy => "MAX_REPEAT"
  | .lazy => "MIN_REPEAT"
  | .possessive => "POSSESSIVE_REPEAT"

/-- The first node, from the outside in, that cannot be matched: a look-behind
whose width is not fixed, or a repetition in a pattern marked as a template. -/
def Node.fault? (template : Bool) : Node → Option Fault
  | .empty | .single _ | .anchor _ | .reference _ _ => none
  | .sequence first second | .choice first second | .conditional _ first second =>
      (first.fault? template).or (second.fault? template)
  | .group _ body | .atomic body | .lookAhead _ body => body.fault? template
  | .repetition greed _ _ body =>
      if template then some (.repetitionInTemplate greed.title) else body.fault? template
  | .lookBehind _ least most body =>
      if 0xFFFFFFFF < least then some .lookBehindTooWide
      else if least != most then some .variableLookBehind
      else body.fault? template

def readWhole (fuel : Nat) : Reader Pattern := do
  let (node, _) ← readBranches fuel true Flags.none
  let state ← get
  if state.ascii && state.unicode then failAnywhere .contraryFlags
  else if state.source.next.isSome then fail .unbalanced 0
  else
    match state.awaited.find? fun (number, _) => state.widths.length < number with
    | some (number, place) => failAt (.noSuchGroup number) place
    | none =>
        match node.fault? state.template with
        | some fault => failAnywhere fault
        | none => return ⟨node, state.widths.length, state.names⟩

end Pattern

def Pattern.ofText (characters : Pattern.CharacterNames) (text : String) :
    Except Pattern.Error Pattern := do
  let text := text.toList
  let source ← Pattern.Source.ofText text
  let reading : Pattern.Reading := ⟨characters, source, [], [], none, [], false, false, false⟩
  return (← (Pattern.readWhole (3 * text.length + 10)).run reading).1

end Runbook
