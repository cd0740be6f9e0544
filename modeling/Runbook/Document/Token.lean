import Runbook.Document.Fault
import Runbook.Text.Utf8

/-!
The tokens of a document. Tokens are found one at a time, on demand. Where a
token could be the key of a mapping, the tokens behind it are found too, until a
colon shows that it is one or the line ends.
-/

namespace Runbook.Document

inductive Token
  | directive (name : String) (version : Option (Nat × Nat)) (tag : Option (String × String))
  | documentStart
  | documentEnd
  | streamEnd
  | blockSequenceStart
  | blockMappingStart
  | blockEnd
  | flowSequenceStart
  | flowSequenceEnd
  | flowMappingStart
  | flowMappingEnd
  | blockEntry
  | flowEntry
  | key
  | value
  | alias (name : String)
  | anchor (name : String)
  | tag (handle : Option String) (suffix : String)
  | scalar (text : String) (plain : Bool)
  deriving DecidableEq, Repr

/-- A token that is a key if a colon follows it on its line. `number` counts the
tokens of the document before it. -/
structure PossibleKey where
  flowLevel : Nat
  number : Nat
  required : Bool
  index : Nat
  line : Nat
  column : Nat
  deriving Repr

/-- A position in a document and what is known there: the tokens that have been
found but not taken, the indentation of the open block collections, and the
tokens that may still turn out to be keys. -/
structure Scanner where
  rest : List Char
  index : Nat
  line : Nat
  column : Nat
  done : Bool
  flowLevel : Nat
  tokens : List Token
  taken : Nat
  indentation : Int
  outer : List Int
  allowKey : Bool
  possible : List PossibleKey

def Scanner.ofText (text : List Char) : Scanner where
  rest := text
  index := 0
  line := 0
  column := 0
  done := false
  flowLevel := 0
  tokens := []
  taken := 0
  indentation := -1
  outer := []
  allowKey := true
  possible := []

abbrev Scan := StateT Scanner (Except Fault)

/-! ## Characters -/

def endMark : Char := '\x00'

def isBreak (c : Char) : Bool :=
  c == '\n' || c == '\r' || c == '\x85' || c == '\u2028' || c == '\u2029'

def isEndOrBreak (c : Char) : Bool := c == endMark || isBreak c

def isBlankOrEnd (c : Char) : Bool := c == ' ' || isEndOrBreak c

def isGap (c : Char) : Bool := c == ' ' || c == '\t' || isEndOrBreak c

def isNameCharacter (c : Char) : Bool := c.isAlphanum || c == '-' || c == '_'

def isHexadecimalDigit (c : Char) : Bool :=
  c.isDigit || ('a' ≤ c && c ≤ 'f') || ('A' ≤ c && c ≤ 'F')

def hexadecimalNumber (digits : List Char) : Nat :=
  digits.foldl (fun value c =>
    value * 16 + if c.isDigit then c.toNat - 48 else c.toLower.toNat - 87) 0

def Scanner.forward (scanner : Scanner) : Scanner :=
  match scanner.rest with
  | [] => scanner
  | c :: rest =>
      let moved := { scanner with rest := rest, index := scanner.index + 1 }
      if c == '\n' || c == '\x85' || c == '\u2028' || c == '\u2029' ||
          (c == '\r' && rest.head? != some '\n') then
        { moved with line := moved.line + 1, column := 0 }
      else if c == '\uFEFF' then moved
      else { moved with column := moved.column + 1 }

namespace Scan

def fail {α : Type} (problem : String) : Scan α := do
  throw (.at .tokens (← get).line problem)

def peekAt (offset : Nat) : Scan Char := do return ((← get).rest[offset]?).getD endMark

def peek : Scan Char := peekAt 0

def skip : (count : Nat) → Scan Unit
  | 0 => return ()
  | count + 1 => do
      modify Scanner.forward
      skip count

def startsWith (text : String) : Scan Bool := do return text.toList.isPrefixOf (← get).rest

def takeWhile (keep : Char → Bool) : Scan (List Char) := do
  let taken := (← get).rest.takeWhile keep
  skip taken.length
  return taken

def skipWhile (keep : Char → Bool) : Scan Unit := do
  let _ ← takeWhile keep

def skipBlanks : Scan Unit := skipWhile (· == ' ')

def skipComment : Scan Unit := do
  if (← peek) == '#' then skipWhile fun c => !isBreak c

/-- Take a line break, if there is one. All breaks are the same but for the
separators of lines and paragraphs. -/
def takeBreak : Scan (List Char) := do
  let c ← peek
  if c == '\u2028' || c == '\u2029' then
    skip 1
    return [c]
  else if isBreak c then
    skip (if ← startsWith "\r\n" then 2 else 1)
    return ['\n']
  else return []

/-- Whether a line that separates documents starts here. -/
def seesSeparator : Scan Bool := do
  if (← startsWith "---") || (← startsWith "...") then return isGap (← peekAt 3) else return false

/-- A bound on how often anything can be repeated in the rest of the document. -/
def size : Scan Nat := do return (← get).rest.length + 2

end Scan

open Scan

/-! ## Keys and indentation -/

def emit (token : Token) : Scan Unit := modify fun scanner =>
  { scanner with tokens := scanner.tokens ++ [token] }

def insertAt (number : Nat) (token : Token) : Scan Unit := modify fun scanner =>
  let offset := number - scanner.taken
  { scanner with
    tokens := scanner.tokens.take offset ++ token :: scanner.tokens.drop offset }

def missingColon {α : Type} : Scan α := fail "could not find expected ':'"

def dropStaleKeys : Scan Unit := do
  let scanner ← get
  let (stale, fresh) := scanner.possible.partition fun key =>
    key.line != scanner.line || 1024 < scanner.index - key.index
  if stale.any (·.required) then missingColon else set { scanner with possible := fresh }

def dropKey : Scan Unit := do
  let scanner ← get
  let (gone, others) := scanner.possible.partition (·.flowLevel == scanner.flowLevel)
  if gone.any (·.required) then missingColon else set { scanner with possible := others }

def noteKey : Scan Unit := do
  let scanner ← get
  let required := scanner.flowLevel == 0 && scanner.indentation == scanner.column
  if scanner.allowKey then
    dropKey
    modify fun scanner => { scanner with
      possible := scanner.possible ++ [{
        flowLevel := scanner.flowLevel
        number := scanner.taken + scanner.tokens.length
        required := required
        index := scanner.index
        line := scanner.line
        column := scanner.column }] }

def setAllowKey (allowed : Bool) : Scan Unit := modify fun scanner =>
  { scanner with allowKey := allowed }

def closeBlocks (column : Int) : (fuel : Nat) → Scan Unit
  | 0 => return ()
  | fuel + 1 => do
      let scanner ← get
      if scanner.flowLevel == 0 && column < scanner.indentation then
        set { scanner with
          indentation := scanner.outer.headD (-1)
          outer := scanner.outer.tail
          tokens := scanner.tokens ++ [Token.blockEnd] }
        closeBlocks column fuel

def closeBlocksTo (column : Int) : Scan Unit := do
  closeBlocks column ((← get).outer.length + 1)

/-- Open a block collection at a column, if it is deeper than those that are open. -/
def openBlock (column : Nat) : Scan Bool := do
  let scanner ← get
  if scanner.indentation < column then
    set { scanner with
      indentation := (column : Int)
      outer := scanner.indentation :: scanner.outer }
    return true
  else return false

/-! ## Directives, anchors and tags -/

def readNumber : Scan Nat := do
  let digits ← takeWhile Char.isDigit
  if digits.isEmpty then fail "expected a digit"
  else return digits.foldl (fun value c => value * 10 + (c.toNat - 48)) 0

/-- Fail unless a character that satisfies `allowed` comes next. -/
def demand (allowed : Char → Bool) (problem : String) : Scan Unit := do
  if !allowed (← peek) then fail problem

def readTagHandle : Scan (List Char) := do
  demand (· == '!') "expected '!'"
  skip 1
  if (← peek) == ' ' then return ['!']
  else
    let name ← takeWhile isNameCharacter
    demand (· == '!') "expected '!'"
    skip 1
    return '!' :: name ++ ['!']

/-- The bytes of consecutive escapes in a tag. -/
def readEscapedBytes : (fuel : Nat) → Scan (List UInt8)
  | 0 => return []
  | fuel + 1 => do
      if (← peek) == '%' then
        skip 1
        let digits := [← peekAt 0, ← peekAt 1]
        if digits.all isHexadecimalDigit then
          skip 2
          return (hexadecimalNumber digits).toUInt8 :: (← readEscapedBytes fuel)
        else fail "expected an escape of two hexadecimal digits"
      else return []

def isTagCharacter (c : Char) : Bool :=
  c.isAlphanum || "-;/?:@&=+$,_.!~*'()[]".toList.contains c

def readTagPieces : (fuel : Nat) → Scan (List Char)
  | 0 => return []
  | fuel + 1 => do
      let text ← takeWhile isTagCharacter
      if (← peek) == '%' then
        let bytes ← readEscapedBytes (← size)
        match Text.Utf8.decode ⟨bytes.toArray⟩ with
        | .ok decoded => return text ++ decoded.toList ++ (← readTagPieces fuel)
        | .error fault => fail fault.message
      else return text

def readTagText : Scan (List Char) := do
  let c ← peek
  if isTagCharacter c || c == '%' then readTagPieces (← size) else fail "expected a tag"

def readDirective : Scan Token := do
  skip 1
  let name ← takeWhile isNameCharacter
  if name.isEmpty then fail "expected the name of a directive"
  demand isBlankOrEnd "expected the end of a name"
  let token ← (do
    if name == "YAML".toList then
      skipBlanks
      let major ← readNumber
      demand (· == '.') "expected a digit or '.'"
      skip 1
      let minor ← readNumber
      demand isBlankOrEnd "expected a digit or ' '"
      return Token.directive "YAML" (some (major, minor)) none
    else if name == "TAG".toList then
      skipBlanks
      let handle ← readTagHandle
      demand (· == ' ') "expected ' '"
      skipBlanks
      let start ← readTagText
      demand isBlankOrEnd "expected ' '"
      return Token.directive "TAG" none (some (String.ofList handle, String.ofList start))
    else
      skipWhile fun c => !isBreak c
      return Token.directive (String.ofList name) none none)
  skipBlanks
  skipComment
  demand isEndOrBreak "expected a comment or a line break"
  let _ ← takeBreak
  return token

def readAnchorName : Scan String := do
  skip 1
  let name ← takeWhile isNameCharacter
  if name.isEmpty then fail "expected alphabetic or numeric character"
  demand (fun c => isGap c || c == '?' || c == ':' || c == ',' || c == ']' || c == '\x7d' ||
    c == '%' || c == '@' || c == '\x60') "expected alphabetic or numeric character"
  return String.ofList name

def readTag : Scan Token := do
  let second ← peekAt 1
  let token ← (do
    if second == '<' then
      skip 2
      let text ← readTagText
      demand (· == '>') "expected '>'"
      skip 1
      return Token.tag none (String.ofList text)
    else if isGap second then
      skip 1
      return Token.tag none "!"
    else
      let ahead := (← get).rest.tail.takeWhile fun c => !isBlankOrEnd c
      let handle ← (do
        if ahead.contains '!' then readTagHandle
        else
          skip 1
          return ['!'])
      let text ← readTagText
      return Token.tag (some (String.ofList handle)) (String.ofList text))
  demand isBlankOrEnd "expected ' '"
  return token

/-! ## Block scalars -/

/-- How the end of a block scalar is treated. -/
inductive Chomping
  | strip
  | clip
  | keep
  deriving DecidableEq

def readChomping : Scan (Option Chomping) := do
  let c ← peek
  if c == '+' || c == '-' then
    skip 1
    return some (if c == '+' then .keep else .strip)
  else return none

def readIncrement : Scan (Option Nat) := do
  let c ← peek
  if c == '0' then fail "expected indentation indicator in the range 1-9, but found 0"
  else if c.isDigit then
    skip 1
    return some (c.toNat - 48)
  else return none

/-- The indicators of a block scalar, which may come in either order. -/
def readBlockHeader : Scan (Chomping × Option Nat) := do
  skip 1
  let first ← readChomping
  let increment ← readIncrement
  let chomping ← if first.isSome || increment.isNone then pure first else readChomping
  demand isBlankOrEnd "expected chomping or indentation indicators"
  skipBlanks
  skipComment
  demand isEndOrBreak "expected a comment or a line break"
  let _ ← takeBreak
  return (chomping.getD .clip, increment)

/-- Skip blank lines and measure the deepest of them. -/
def measureBlankLines : (fuel : Nat) → (breaks : List Char) → (deepest : Nat) →
    Scan (List Char × Nat)
  | 0, breaks, deepest => return (breaks, deepest)
  | fuel + 1, breaks, deepest => do
      let c ← peek
      if c == ' ' then
        skip 1
        measureBlankLines fuel breaks (max deepest (← get).column)
      else if isBreak c then measureBlankLines fuel (breaks ++ (← takeBreak)) deepest
      else return (breaks, deepest)

def skipToColumn (column : Nat) : Scan Unit := do
  let scanner ← get
  skip ((scanner.rest.take (column - scanner.column)).takeWhile (· == ' ')).length

def takeBlankLines (indentation : Nat) : (fuel : Nat) → Scan (List Char)
  | 0 => return []
  | fuel + 1 => do
      skipToColumn indentation
      if isBreak (← peek) then return (← takeBreak) ++ (← takeBlankLines indentation fuel)
      else return []

/-- The lines of a block scalar. The result ends with the last line break, and is
followed by the breaks behind it. -/
def readBlockLines (folded : Bool) (indentation : Nat) : (fuel : Nat) →
    (text breaks : List Char) → Scan (List Char × List Char × List Char)
  | 0, text, breaks => return (text, [], breaks)
  | fuel + 1, text, breaks => do
      let flush ← (do return !((← peek) == ' ' || (← peek) == '\t'))
      let line ← takeWhile fun c => !isBreak c
      let text := text ++ breaks ++ line
      let lineBreak ← takeBreak
      let breaks ← takeBlankLines indentation (← size)
      let next ← peek
      if (← get).column == indentation && next != endMark then
        let joint :=
          if folded && lineBreak == ['\n'] && flush && next != ' ' && next != '\t' then
            if breaks.isEmpty then [' '] else []
          else lineBreak
        readBlockLines folded indentation fuel (text ++ joint) breaks
      else return (text, lineBreak, breaks)

def readBlockScalar (folded : Bool) : Scan Token := do
  let (chomping, increment) ← readBlockHeader
  let least := ((← get).indentation + 1).toNat
  let least := if least < 1 then 1 else least
  let (breaks, indentation) ← (do
    match increment with
    | some increment =>
        let indentation := least + increment - 1
        return (← takeBlankLines indentation (← size), indentation)
    | none =>
        let (breaks, deepest) ← measureBlankLines (← size) [] 0
        return (breaks, max least deepest))
  let (text, lineBreak, breaks) ← (do
    if (← get).column == indentation && (← peek) != endMark then
      readBlockLines folded indentation (← size) [] breaks
    else return ([], [], breaks))
  let ending := match chomping with
    | .strip => []
    | .clip => lineBreak
    | .keep => lineBreak ++ breaks
  return .scalar (String.ofList (text ++ ending)) false

/-! ## Quoted scalars -/

/-- The characters that a single letter stands for behind a backslash. -/
def escapes : List (Char × Char) :=
  [('0', '\x00'), ('a', '\x07'), ('b', '\x08'), ('t', '\t'), ('\t', '\t'), ('n', '\n'),
    ('v', '\x0b'), ('f', '\x0c'), ('r', '\r'), ('e', '\x1b'), (' ', ' '), ('"', '"'),
    ('\\', '\\'), ('/', '/'), ('N', '\x85'), ('_', '\xa0'), ('L', '\u2028'), ('P', '\u2029')]

def escapeLengths : List (Char × Nat) := [('x', 2), ('u', 4), ('U', 8)]

def takeQuotedBreaks : (fuel : Nat) → Scan (List Char)
  | 0 => return []
  | fuel + 1 => do
      if ← seesSeparator then fail "found unexpected document separator"
      else
        skipWhile fun c => c == ' ' || c == '\t'
        if isBreak (← peek) then return (← takeBreak) ++ (← takeQuotedBreaks fuel)
        else return []

/-- The text that an escape stands for, whose backslash has been taken. -/
def readEscape : Scan (List Char) := do
  let c ← peek
  match escapes.lookup c, escapeLengths.lookup c with
  | some meaning, _ =>
      skip 1
      return [meaning]
  | none, some length =>
      skip 1
      let digits := ((← get).rest.take length).takeWhile isHexadecimalDigit
      if digits.length != length then
        fail s!"expected escape sequence of {length} hexadecimal numbers"
      else
        let code := hexadecimalNumber digits
        if 0x80000000 ≤ code then throw .codeTooLarge
        else if 0x10FFFF < code then throw (.impossible .codePoint)
        else
          skip length
          return [Char.ofNat code]
  | none, none =>
      if isBreak c then
        let _ ← takeBreak
        takeQuotedBreaks (← size)
      else fail "found unknown escape character"

/-- The characters of a quoted scalar up to a blank, a break, or its end. -/
def readQuotedWord (double : Bool) : (fuel : Nat) → (text : List Char) → Scan (List Char)
  | 0, text => return text
  | fuel + 1, text => do
      let plain ← takeWhile fun c =>
        !(c == '\'' || c == '"' || c == '\\' || isGap c)
      let text := text ++ plain
      let c ← peek
      if !double && c == '\'' && (← peekAt 1) == '\'' then
        skip 2
        readQuotedWord double fuel (text ++ ['\''])
      else if (double && c == '\'') || (!double && (c == '"' || c == '\\')) then
        skip 1
        readQuotedWord double fuel (text ++ [c])
      else if double && c == '\\' then
        skip 1
        let meaning ← readEscape
        readQuotedWord double fuel (text ++ meaning)
      else return text

/-- Blanks inside a quoted scalar. A line break in them is folded. -/
def readQuotedBlanks : Scan (List Char) := do
  let blanks ← takeWhile fun c => c == ' ' || c == '\t'
  let c ← peek
  if c == endMark then fail "found unexpected end of stream"
  else if isBreak c then
    let lineBreak ← takeBreak
    let breaks ← takeQuotedBreaks (← size)
    let joint := if lineBreak != ['\n'] then lineBreak else if breaks.isEmpty then [' '] else []
    return joint ++ breaks
  else return blanks

def readQuotedRest (quote : Char) : (fuel : Nat) → (text : List Char) → Scan (List Char)
  | 0, text => return text
  | fuel + 1, text => do
      if (← peek) == quote then return text
      else
        let blanks ← readQuotedBlanks
        let word ← readQuotedWord (quote == '"') (← size) []
        readQuotedRest quote fuel (text ++ blanks ++ word)

def readQuoted : Scan Token := do
  let quote ← peek
  skip 1
  let word ← readQuotedWord (quote == '"') (← size) []
  let text ← readQuotedRest quote (← size) word
  skip 1
  return .scalar (String.ofList text) false

/-! ## Plain scalars -/

/-- The characters of a plain scalar up to a gap or a sign that ends it. -/
def plainWord (flow : Bool) : List Char → List Char
  | [] => []
  | c :: rest =>
      let next := rest.headD endMark
      let isFlowSign (c : Char) : Bool :=
        c == ',' || c == '[' || c == ']' || c == '\x7b' || c == '\x7d'
      if isGap c || (c == ':' && (isGap next || (flow && isFlowSign next))) ||
          (flow && (isFlowSign c || c == '?')) then []
      else c :: plainWord flow rest

/-- The breaks between two lines of a plain scalar, unless a line that separates
documents follows. -/
def takePlainBreaks : (fuel : Nat) → (breaks : List Char) → Scan (Option (List Char))
  | 0, breaks => return some breaks
  | fuel + 1, breaks => do
      let c ← peek
      if c == ' ' then
        skip 1
        takePlainBreaks fuel breaks
      else if isBreak c then
        let breaks := breaks ++ (← takeBreak)
        if ← seesSeparator then return none else takePlainBreaks fuel breaks
      else return some breaks

/-- The gap between two words of a plain scalar. It is empty if the scalar ends
here. -/
def readPlainGap : Scan (List Char) := do
  let blanks ← takeWhile (· == ' ')
  if isBreak (← peek) then
    let lineBreak ← takeBreak
    setAllowKey true
    if ← seesSeparator then return []
    else
      match ← takePlainBreaks (← size) [] with
      | none => return []
      | some breaks =>
          let joint :=
            if lineBreak != ['\n'] then lineBreak else if breaks.isEmpty then [' '] else []
          return joint ++ breaks
  else return blanks

def readPlainWords (indentation : Int) : (fuel : Nat) → (text gap : List Char) → Scan (List Char)
  | 0, text, _ => return text
  | fuel + 1, text, gap => do
      if (← peek) == '#' then return text
      else
        let scanner ← get
        let word := plainWord (scanner.flowLevel != 0) scanner.rest
        if word.isEmpty then return text
        else
          setAllowKey false
          skip word.length
          let text := text ++ gap ++ word
          let gap ← readPlainGap
          let shallow ← (do
            let scanner ← get
            return scanner.flowLevel == 0 && (scanner.column : Int) < indentation)
          if gap.isEmpty || (← peek) == '#' || shallow then return text
          else readPlainWords indentation fuel text gap

def readPlain : Scan Token := do
  let text ← readPlainWords ((← get).indentation + 1) (← size) [] []
  return .scalar (String.ofList text) true

/-! ## Finding tokens -/

def skipToToken : (fuel : Nat) → Scan Unit
  | 0 => return ()
  | fuel + 1 => do
      skipBlanks
      skipComment
      if isBreak (← peek) then
        let _ ← takeBreak
        if (← get).flowLevel == 0 then setAllowKey true
        skipToToken fuel

def findStreamEnd : Scan Unit := do
  closeBlocksTo (-1)
  dropKey
  modify fun scanner => { scanner with
    allowKey := false
    possible := []
    tokens := scanner.tokens ++ [Token.streamEnd]
    done := true }

def findMarker (token : Token) : Scan Unit := do
  closeBlocksTo (-1)
  dropKey
  setAllowKey false
  skip 3
  emit token

def findFlowStart (token : Token) : Scan Unit := do
  noteKey
  modify fun scanner => { scanner with flowLevel := scanner.flowLevel + 1, allowKey := true }
  skip 1
  emit token

def findFlowEnd (token : Token) : Scan Unit := do
  dropKey
  modify fun scanner => { scanner with flowLevel := scanner.flowLevel - 1, allowKey := false }
  skip 1
  emit token

def findFlowEntry : Scan Unit := do
  setAllowKey true
  dropKey
  skip 1
  emit .flowEntry

/-- In block context, check that a collection may start here, and start it. -/
def beginBlock (token : Token) (problem : String) : Scan Unit := do
  let scanner ← get
  if scanner.flowLevel == 0 then
    if !scanner.allowKey then fail problem
    if ← openBlock scanner.column then emit token

def findBlockEntry : Scan Unit := do
  beginBlock .blockSequenceStart "sequence entries are not allowed here"
  setAllowKey true
  dropKey
  skip 1
  emit .blockEntry

def findKey : Scan Unit := do
  beginBlock .blockMappingStart "mapping keys are not allowed here"
  setAllowKey ((← get).flowLevel == 0)
  dropKey
  skip 1
  emit .key

def findValue : Scan Unit := do
  let scanner ← get
  match scanner.possible.find? (·.flowLevel == scanner.flowLevel) with
  | some key =>
      set { scanner with
        possible := scanner.possible.filter (·.flowLevel != scanner.flowLevel) }
      insertAt key.number .key
      if scanner.flowLevel == 0 then
        if ← openBlock key.column then insertAt key.number .blockMappingStart
      setAllowKey false
  | none =>
      beginBlock .blockMappingStart "mapping values are not allowed here"
      setAllowKey ((← get).flowLevel == 0)
      dropKey
  skip 1
  emit .value

def findScalar (read : Scan Token) : Scan Unit := do
  noteKey
  setAllowKey false
  emit (← read)

def findBlockScalar (folded : Bool) : Scan Unit := do
  setAllowKey true
  dropKey
  emit (← readBlockScalar folded)

def seesPlain : Scan Bool := do
  let c ← peek
  let next ← peekAt 1
  let signs := "-?:,[]\x7b\x7d#&*!|>'\"%@\x60".toList
  return !(isGap c || signs.contains c) ||
    (!isGap next && (c == '-' || ((← get).flowLevel == 0 && (c == '?' || c == ':'))))

def findMore : Scan Unit := do
  if (← get).index == 0 && (← peek) == '\uFEFF' then skip 1
  skipToToken (← size)
  dropStaleKeys
  closeBlocksTo (← get).column
  let scanner ← get
  let c ← peek
  let next ← peekAt 1
  let flow := scanner.flowLevel != 0
  if c == endMark then findStreamEnd
  else if c == '%' && scanner.column == 0 then
    closeBlocksTo (-1)
    dropKey
    setAllowKey false
    emit (← readDirective)
  else if scanner.column == 0 && (← seesSeparator) then
    findMarker (if c == '-' then .documentStart else .documentEnd)
  else if c == '[' then findFlowStart .flowSequenceStart
  else if c == '\x7b' then findFlowStart .flowMappingStart
  else if c == ']' then findFlowEnd .flowSequenceEnd
  else if c == '\x7d' then findFlowEnd .flowMappingEnd
  else if c == ',' then findFlowEntry
  else if c == '-' && isGap next then findBlockEntry
  else if c == '?' && (flow || isGap next) then findKey
  else if c == ':' && (flow || isGap next) then findValue
  else if c == '*' then findScalar (do return .alias (← readAnchorName))
  else if c == '&' then findScalar (do return .anchor (← readAnchorName))
  else if c == '!' then findScalar readTag
  else if c == '|' && !flow then findBlockScalar false
  else if c == '>' && !flow then findBlockScalar true
  else if c == '\'' || c == '"' then findScalar readQuoted
  else if ← seesPlain then findScalar readPlain
  else fail "found a character that cannot start any token"

/-- Find tokens until it is certain what the next one is. -/
def prepare : (fuel : Nat) → Scan Unit
  | 0 => return ()
  | fuel + 1 => do
      if !(← get).done then
        let undecided ← (do
          if (← get).tokens.isEmpty then return true
          else
            dropStaleKeys
            let scanner ← get
            return scanner.possible.any (·.number == scanner.taken))
        if undecided then
          findMore
          prepare fuel

/-- The next token, which is not taken. -/
def nextToken : Scan Token := do
  prepare (← size)
  return (← get).tokens.headD .streamEnd

def takeToken : Scan Token := do
  let token ← nextToken
  modify fun scanner =>
    { scanner with tokens := scanner.tokens.tail, taken := scanner.taken + 1 }
  return token

end Runbook.Document
