import Runbook.Text.Quoted

/-!
Why a document cannot be read.
-/

namespace Runbook.Document

/-- What a fault concerns: the characters of a document, its tokens, how they fit
together, the references in it, or the values they stand for. -/
inductive Stage
  | characters
  | tokens
  | arrangement
  | references
  | values
  deriving DecidableEq, Repr

/-- A value that is written in the right way but does not exist. -/
inductive Impossible
  | year (year : Nat)
  | month
  | day
  | hour
  | minute
  | second
  | offset
  | integer (base : Nat) (text : String)
  | longInteger (digits : Nat)
  | decimal (text : String)
  | codePoint
  deriving DecidableEq, Repr

def Impossible.message : Impossible → String
  | .year number => s!"year {number} is out of range"
  | .month => "month must be in 1..12"
  | .day => "day is out of range for month"
  | .hour => "hour must be in 0..23"
  | .minute => "minute must be in 0..59"
  | .second => "second must be in 0..59"
  | .offset =>
      "offset must be a timedelta strictly between -timedelta(hours=24) and timedelta(hours=24)"
  | .integer base digits => s!"invalid literal for int() with base {base}: {Text.quoted digits}"
  | .longInteger count =>
      s!"Exceeds the limit (4300 digits) for integer string conversion: value has {count} digits; "
        ++ "use sys.set_int_max_str_digits() to increase the limit"
  | .decimal digits => s!"could not convert string to float: {Text.quoted digits}"
  | .codePoint => "chr() arg not in range(0x110000)"

/-- A fault in a line of a document, an impossible value, a word that is none of
those a tag allows, a number without digits, a number that is out of all proportion,
or a moment that is not written like one. -/
inductive Fault
  | at (stage : Stage) (line : Nat) (problem : String)
  | impossible (value : Impossible)
  | unknownWord (word : String)
  | emptyNumber
  | decimalTooLarge
  | codeTooLarge
  | shapelessMoment
  deriving DecidableEq, Repr

def Fault.message : Fault → String
  | .at _ line problem => s!"{problem}\n  in line {line + 1}"
  | .impossible value => value.message
  | .unknownWord word => Text.quoted word
  | .emptyNumber => "string index out of range"
  | .decimalTooLarge => "int too large to convert to float"
  | .codeTooLarge => "Python int too large to convert to C int"
  | .shapelessMoment => "'NoneType' object has no attribute 'groupdict'"

end Runbook.Document
