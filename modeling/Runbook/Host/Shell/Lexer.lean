import Runbook.Host.Shell.Syntax

/-!
The tokens of a script for the host's shell: words, operators and redirections.
-/

namespace Runbook.Host.Shell

inductive Token
  | word (word : Word)
  | operator (text : String)
  | redirection (stream : Nat) (direction : Direction)
  deriving DecidableEq, Repr

def isNameStart (c : Char) : Bool := c.isAlpha || c == '_'

def isNameCharacter (c : Char) : Bool := c.isAlphanum || c == '_'

def isMeta (c : Char) : Bool :=
  c == ' ' || c == '\t' || c == '\n' || c == ';' || c == '&' || c == '|' || c == '<' ||
    c == '>' || c == '(' || c == ')'

/-- The text up to the bracket that closes the one before it, and the text behind. -/
def closing (opened closed : Char) : (depth : Nat) → List Char → Option (List Char × List Char)
  | _, [] => none
  | depth, '\\' :: c :: rest =>
      (closing opened closed depth rest).map fun (inside, after) => ('\\' :: c :: inside, after)
  | depth, c :: rest =>
      let keep (next : Option (List Char × List Char)) :=
        next.map fun (inside, after) => (c :: inside, after)
      if c == closed then
        match depth with
        | 0 => some ([], rest)
        | depth + 1 => keep (closing opened closed depth rest)
      else if c == opened then keep (closing opened closed (depth + 1) rest)
      else keep (closing opened closed depth rest)

def bracedPart (quoted : Bool) (inside : List Char) : Part :=
  match inside with
  | '#' :: c :: rest => .length (String.ofList (c :: rest))
  | _ =>
      let isName := inside.takeWhile isNameCharacter
      let name := if isName.isEmpty then inside.take 1 else isName
      match inside.drop name.length with
      | ':' :: '-' :: value => .fallback quoted (String.ofList name) true value
      | '-' :: value => .fallback quoted (String.ofList name) false value
      | ':' :: '+' :: value => .replacement quoted (String.ofList name) true value
      | '+' :: value => .replacement quoted (String.ofList name) false value
      | _ => .variable quoted (String.ofList name)

def isSpecialName (c : Char) : Bool :=
  c.isDigit || c == '?' || c == '#' || c == '@' || c == '*' || c == '$' || c == '!' || c == '-'

def dollarPart (quoted : Bool) (text : List Char) : Part × List Char :=
  let plain := (Part.text quoted ['$'], text)
  match text with
  | '(' :: '(' :: rest =>
      match closing '(' ')' 0 rest with
      | some (inside, ')' :: after) => (.arithmetic quoted inside, after)
      | _ => plain
  | '(' :: rest =>
      match closing '(' ')' 0 rest with
      | some (inside, after) => (.output quoted inside, after)
      | none => plain
  | '\x7b' :: rest =>
      match closing '\x7b' '\x7d' 0 rest with
      | some (inside, after) => (bracedPart quoted inside, after)
      | none => plain
  | c :: rest =>
      if isNameStart c then
        let name := (c :: rest).takeWhile isNameCharacter
        (.variable quoted (String.ofList name), (c :: rest).drop name.length)
      else if isSpecialName c then (.variable quoted (String.ofList [c]), rest)
      else plain
  | [] => plain

def backquoted : List Char → Option (List Char × List Char)
  | [] => none
  | '\\' :: '\x60' :: rest => (backquoted rest).map fun (inside, after) => ('\x60' :: inside, after)
  | c :: rest =>
      if c == '\x60' then some ([], rest)
      else (backquoted rest).map fun (inside, after) => (c :: inside, after)

def quotedParts : (fuel : Nat) → List Char → Option (Word × List Char)
  | 0, _ => none
  | _, [] => none
  | fuel + 1, c :: rest =>
      let further (part : Part) (rest : List Char) :=
        (quotedParts fuel rest).map fun (parts, after) => (part :: parts, after)
      if c == '"' then some ([], rest)
      else if c == '\\' then
        match rest with
        | d :: after =>
            if d == '$' || d == '"' || d == '\\' || d == '\x60' then further (.text true [d]) after
            else if d == '\n' then quotedParts fuel after
            else further (.text true ['\\', d]) after
        | [] => none
      else if c == '$' then
        let (part, after) := dollarPart true rest
        further part after
      else if c == '\x60' then
        match backquoted rest with
        | some (inside, after) => further (.output true inside) after
        | none => none
      else further (.text true [c]) rest

def wordParts : (fuel : Nat) → List Char → Option (Word × List Char)
  | 0, _ => none
  | _, [] => some ([], [])
  | fuel + 1, c :: rest =>
      let further (parts : Word) (rest : List Char) :=
        (wordParts fuel rest).map fun (others, after) => (parts ++ others, after)
      if isMeta c then some ([], c :: rest)
      else if c == '\'' then
        let inside := rest.takeWhile (· != '\'')
        match rest.drop inside.length with
        | _ :: after => further [.text true inside] after
        | [] => none
      else if c == '"' then
        match quotedParts (rest.length + 1) rest with
        | some (parts, after) => further (.text true [] :: parts) after
        | none => none
      else if c == '\\' then
        match rest with
        | '\n' :: after => further [] after
        | d :: after => further [.text true [d]] after
        | [] => further [.text true ['\\']] []
      else if c == '$' then
        let (part, after) := dollarPart false rest
        further [part] after
      else if c == '\x60' then
        match backquoted rest with
        | some (inside, after) => further [.output false inside] after
        | none => none
      else
        let text := (c :: rest).takeWhile fun d =>
          !isMeta d && d != '\'' && d != '"' && d != '\\' && d != '$' && d != '\x60'
        further [.text false text] ((c :: rest).drop text.length)

/-- The operators, the longer ones first. -/
def operators : List String := ["&&", "||", ";;", ";", "&", "|", "(", ")", "\n"]

/-- A redirection at the start of a text, without a number in front. -/
def redirectionAt (stream : Option Nat) : List Char → Option (Token × List Char)
  | '>' :: '>' :: rest => some (.redirection (stream.getD 1) .append, rest)
  | '>' :: '&' :: rest => some (.redirection (stream.getD 1) .join, rest)
  | '>' :: rest => some (.redirection (stream.getD 1) .write, rest)
  | '<' :: rest => some (.redirection (stream.getD 0) .read, rest)
  | _ => none

def tokenAt (text : List Char) : Option (Token × List Char) :=
  let digits := text.takeWhile Char.isDigit
  let stream := if digits.length == 1 then
      (digits.head?.map fun c => c.toNat - 48) else none
  let numbered := if stream.isSome then redirectionAt stream (text.drop 1) else none
  match numbered.or (redirectionAt none text) with
  | some result => some result
  | none =>
      match operators.find? fun operator => operator.toList.isPrefixOf text with
      | some operator => some (.operator operator, text.drop operator.length)
      | none =>
          (wordParts (text.length + 1) text).map fun (parts, after) => (.word parts, after)

/-- All tokens of a script, if its quotes are closed. -/
def tokens : (fuel : Nat) → List Char → Option (List Token)
  | 0, _ => some []
  | _, [] => some []
  | fuel + 1, c :: rest =>
      if c == ' ' || c == '\t' then tokens fuel rest
      else if c == '#' then tokens fuel (rest.dropWhile (· != '\n'))
      else if c == '\\' && rest.head? == some '\n' then tokens fuel rest.tail
      else do
        let (token, after) ← tokenAt (c :: rest)
        return token :: (← tokens fuel after)

end Runbook.Host.Shell
