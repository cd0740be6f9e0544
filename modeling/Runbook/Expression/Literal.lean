import Runbook.Expression.Token

/-!
What may stand inside string literals. Strings have no place in arithmetic, but
one that is written wrongly is an error of the whole expression.
-/

namespace Runbook.Expression

/-- Whether the first `count` characters are hexadecimal digits, and their value. -/
def hexPrefix? (count : Nat) (text : List Char) : Option Nat :=
  let digits := text.take count
  if digits.length == count && digits.all isHexDigit then
    some (digits.foldl (fun value c => value * 16 + hexValue c) 0)
  else none

def validEscapes : List Char → Bool
  | [] => true
  | '\\' :: c :: rest =>
      let complete :=
        if c == 'x' then (hexPrefix? 2 rest).isSome
        else if c == 'u' then (hexPrefix? 4 rest).isSome
        else if c == 'U' then (hexPrefix? 8 rest).any (· ≤ 0x10FFFF)
        else if c == 'N' then
          match rest with
          | '\x7b' :: behind =>
              let name := behind.takeWhile (· != '\x7d')
              !name.isEmpty && name.length < behind.length &&
                name.all fun c => c.isAlphanum || c == ' ' || c == '-'
          | _ => false
        else true
      complete && validEscapes rest
  | _ :: rest => validEscapes rest

def validByteEscapes : List Char → Bool
  | [] => true
  | '\\' :: c :: rest => (c != 'x' || (hexPrefix? 2 rest).isSome) && validByteEscapes rest
  | _ :: rest => validByteEscapes rest

/-! ## Formatted strings -/

/-- What ends the expression part of a formatted string: its text, and the rest
starting with the mark that ends it. `brackets` holds the closing brackets that
are still owed, and `quote` the quotes of a string in progress. -/
def takeEmbedded : (brackets : List Char) → (quote : List Char) → List Char →
    Option (List Char × List Char)
  | _, _, [] => none
  | brackets, quote, c :: rest =>
      let go (brackets quote : List Char) := do
        let (text, rest) ← takeEmbedded brackets quote rest
        return (c :: text, rest)
      if c == '\\' then none
      else
        match quote with
        | q :: more =>
            if c == q && more.isPrefixOf rest then
              if more.isEmpty then go brackets [] else go brackets [q]
            else go brackets quote
        | [] =>
            if c == '\'' || c == '"' then
              if [c, c].isPrefixOf rest then go brackets [c, c, c] else go brackets [c]
            else if c == '#' then none
            else if c == '(' then go (')' :: brackets) []
            else if c == '[' then go (']' :: brackets) []
            else if c == '\x7b' then go ('\x7d' :: brackets) []
            else
              match brackets with
              | closing :: outer =>
                  if c == closing then go outer []
                  else if c == ')' || c == ']' || c == '\x7d' then none
                  else go brackets []
              | [] =>
                  if c == ')' || c == ']' then none
                  else if c == '\x7d' || c == ':' then some ([], c :: rest)
                  else if c == '!' || c == '=' then
                    if rest.head? == some '=' then
                      match rest with
                      | e :: behind => do
                          let (text, rest) ← takeEmbedded [] [] behind
                          return (c :: e :: text, rest)
                      | [] => none
                    else some ([], c :: rest)
                  else if (c == '<' || c == '>') && rest.head? == some '=' then
                    match rest with
                    | e :: behind => do
                        let (text, rest) ← takeEmbedded [] [] behind
                        return (c :: e :: text, rest)
                    | [] => none
                  else go [] []

/-- What follows the text of an embedded expression: an equals sign that repeats
the text, and a conversion. -/
def skipConversion (text : List Char) : Option (List Char) :=
  let text := match text with
    | '=' :: rest => rest.dropWhile fun c => c == ' ' || c == '\t' || c == '\n'
    | rest => rest
  match text with
  | '!' :: c :: rest => if c == 's' || c == 'r' || c == 'a' then some rest else none
  | '!' :: [] => none
  | rest => some rest

/-- Check the text of a formatted string with a check for the expressions in it.
`inner` tells that the text is the format of an embedded expression, which ends
at a closing brace; the text behind that is returned. -/
def checkFormatted (check : List Char → Bool) (raw : Bool) :
    (fuel : Nat) → (inner : Nat) → List Char → Option (List Char)
  | 0, _, _ => none
  | fuel + 1, inner, text =>
      match text with
      | [] => if inner == 0 then some [] else none
      | '\x7b' :: rest =>
          if inner == 0 && rest.head? == some '\x7b' then
            checkFormatted check raw fuel inner (rest.drop 1)
          else if 1 < inner then none
          else do
            let (embedded, rest) ← takeEmbedded [] [] rest
            if embedded.all Text.isBlank || !check embedded then none
            else
              let rest ← skipConversion rest
              let rest ← match rest with
                | ':' :: rest => checkFormatted check raw fuel (inner + 1) rest
                | '\x7d' :: rest => some rest
                | _ => none
              checkFormatted check raw fuel inner rest
      | '\x7d' :: rest =>
          if 0 < inner then some rest
          else if rest.head? == some '\x7d' then checkFormatted check raw fuel inner (rest.drop 1)
          else none
      | '\\' :: 'N' :: '\x7b' :: rest =>
          if raw then checkFormatted check raw fuel inner ('N' :: '\x7b' :: rest)
          else checkFormatted check raw fuel inner ((rest.dropWhile (· != '\x7d')).drop 1)
      | _ :: rest => checkFormatted check raw fuel inner rest

def validBody (check : List Char → Bool) (kind : StringKind) (raw : Bool) (body : List Char) :
    Bool :=
  match kind with
  | .plain => raw || validEscapes body
  | .bytes => body.all (·.toNat < 128) && (raw || validByteEscapes body)
  | .formatted =>
      (checkFormatted check raw (2 * body.length + 2) 0 body).isSome &&
        (raw || validEscapes (body.filter fun c => c != '\x7b' && c != '\x7d') ||
          body.contains '\x7b')

end Runbook.Expression
