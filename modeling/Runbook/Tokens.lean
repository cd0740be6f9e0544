/-!
The tokens of a command line. Blanks, tabs and line ends separate tokens unless
they are quoted. Single quotes keep everything up to the next single quote;
inside double quotes a backslash escapes a double quote or a backslash; outside
quotes it escapes any character.
-/

namespace Runbook.Tokens

inductive Fault
  | openQuote
  | danglingEscape
  deriving DecidableEq, Repr

def Fault.message : Fault → String
  | .openQuote => "No closing quotation"
  | .danglingEscape => "No escaped character"

def isSeparator (c : Char) : Bool := c == ' ' || c == '\t' || c == '\r' || c == '\n'

def isQuote (c : Char) : Bool := c == '\'' || c == '"'

/-- Where splitting stands: between two tokens, inside a token, inside a quoted
part, or behind a backslash, which may itself stand inside double quotes. -/
inductive Place
  | between
  | inToken
  | inQuotes (quote : Char)
  | escaped (inDouble : Bool)
  deriving DecidableEq, Repr

/-- Split the remaining characters. The token in progress is held in reverse. -/
def splitFrom : Place → (current : List Char) → List Char → Except Fault (List (List Char))
  | .between, _, [] => .ok []
  | .between, _, c :: rest =>
      if isSeparator c then splitFrom .between [] rest
      else if c == '\\' then splitFrom (.escaped false) [] rest
      else if isQuote c then splitFrom (.inQuotes c) [] rest
      else splitFrom .inToken [c] rest
  | .inToken, current, [] => .ok [current.reverse]
  | .inToken, current, c :: rest =>
      if isSeparator c then (splitFrom .between [] rest).map (current.reverse :: ·)
      else if c == '\\' then splitFrom (.escaped false) current rest
      else if isQuote c then splitFrom (.inQuotes c) current rest
      else splitFrom .inToken (c :: current) rest
  | .inQuotes _, _, [] => .error .openQuote
  | .inQuotes quote, current, c :: rest =>
      if c == quote then splitFrom .inToken current rest
      else if c == '\\' && quote == '"' then splitFrom (.escaped true) current rest
      else splitFrom (.inQuotes quote) (c :: current) rest
  | .escaped _, _, [] => .error .danglingEscape
  | .escaped false, current, c :: rest => splitFrom .inToken (c :: current) rest
  | .escaped true, current, c :: rest =>
      if c == '\\' || c == '"' then splitFrom (.inQuotes '"') (c :: current) rest
      else splitFrom (.inQuotes '"') (c :: '\\' :: current) rest

def split (line : String) : Except Fault (List String) :=
  (splitFrom .between [] line.toList).map (·.map String.ofList)

/-! ## Joining -/

/-- The characters that never need quotes. -/
def isPlain (c : Char) : Bool :=
  c.isAlphanum || c == '_' || c == '@' || c == '%' || c == '+' || c == '=' || c == ':' ||
    c == ',' || c == '.' || c == '/' || c == '-'

/-- A token inside single quotes. A single quote within it is written between
double quotes. -/
def enclose (token : List Char) : List Char :=
  '\'' :: token.flatMap (fun c =>
    if c == '\'' then ['\'', '"', '\'', '"', '\''] else [c]) ++ ['\'']

def quoteToken (token : List Char) : List Char :=
  if !token.isEmpty && token.all isPlain then token else enclose token

/-- A line that splits into the given tokens. -/
def join (tokens : List String) : String :=
  String.ofList (([' '] : List Char).intercalate (tokens.map fun token => quoteToken token.toList))

end Runbook.Tokens
