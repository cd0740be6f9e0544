import Runbook.Document.Fault
import Runbook.Number.Arithmetic
import Runbook.Number.Notation
import Runbook.Text.Quoted

/-!
The values that a document holds: scalars of several kinds, sequences, sets, pairs
and mappings. A value can be shown as text, by itself or inside another value.
-/

namespace Runbook.Document

/-- The time of a day, with its distance from universal time in minutes. -/
structure Time where
  hour : Nat
  minute : Nat
  second : Nat
  microsecond : Nat
  offset : Option Int
  deriving DecidableEq, Repr

/-- A date, or a moment on it. -/
structure Moment where
  year : Nat
  month : Nat
  day : Nat
  time : Option Time
  deriving DecidableEq, Repr

mutual

/-- A value. Pairs are elements of sequences that are written as mappings of one
field each. `cycle` stands for a sequence or a mapping in which it occurs. -/
inductive Value
  | null
  | boolean (value : Bool)
  | integer (value : Int)
  | decimal (value : Double)
  | text (value : String)
  | bytes (value : List UInt8)
  | moment (value : Moment)
  | sequence (elements : Values)
  | set (elements : Values)
  | pair (first second : Value)
  | mapping (fields : Fields)
  | cycle (mapping : Bool)

inductive Values
  | nil
  | cons (head : Value) (tail : Values)

/-- The fields of a mapping in the order in which their keys first occur. -/
inductive Fields
  | nil
  | cons (key value : Value) (tail : Fields)

end

deriving instance DecidableEq for Value, Values, Fields

instance : Inhabited Value := ⟨.null⟩

namespace Values

def toList : Values → List Value
  | .nil => []
  | .cons head tail => head :: tail.toList

def ofList : List Value → Values
  | [] => .nil
  | head :: tail => .cons head (ofList tail)

end Values

/-! ## Showing -/

def padded (width n : Nat) : String :=
  let digits := Nat.toDigits 10 n
  String.ofList (List.replicate (width - digits.length) '0' ++ digits)

namespace Moment

def writeOffset (offset : Int) : String :=
  let sign := if offset < 0 then "-" else "+"
  sign ++ padded 2 (offset.natAbs / 60) ++ ":" ++ padded 2 (offset.natAbs % 60)

def write (moment : Moment) : String :=
  let date := "-".intercalate
    [padded 4 moment.year, padded 2 moment.month, padded 2 moment.day]
  match moment.time with
  | none => date
  | some time =>
      let clock := ":".intercalate
        [padded 2 time.hour, padded 2 time.minute, padded 2 time.second]
      let fraction := if time.microsecond == 0 then "" else "." ++ padded 6 time.microsecond
      date ++ " " ++ clock ++ fraction ++ ((time.offset.map writeOffset).getD "")

/-- The distance of a zone from universal time, in days and seconds. -/
def writeZone (offset : Int) : String :=
  if offset == 0 then "datetime.timezone.utc"
  else
    let days := Int.fdiv offset 1440
    let seconds := Int.fmod offset 1440 * 60
    let parts := (if days == 0 then [] else [s!"days={days}"]) ++
      (if seconds == 0 then [] else [s!"seconds={seconds}"])
    "datetime.timezone(datetime.timedelta(" ++ ", ".intercalate parts ++ "))"

def writeInside (moment : Moment) : String :=
  let date := s!"{moment.year}, {moment.month}, {moment.day}"
  match moment.time with
  | none => s!"datetime.date({date})"
  | some time =>
      let clock := [time.hour, time.minute]
      let clock :=
        if time.microsecond != 0 then clock ++ [time.second, time.microsecond]
        else if time.second != 0 then clock ++ [time.second]
        else clock
      let zone := (time.offset.map fun offset => s!", tzinfo={writeZone offset}").getD ""
      s!"datetime.datetime({date}, " ++ ", ".intercalate (clock.map toString) ++ zone ++ ")"

end Moment

def writeByte (quote : Char) (byte : UInt8) : List Char :=
  let c := Char.ofNat byte.toNat
  if c == quote || c == '\\' then ['\\', c]
  else if c == '\t' then ['\\', 't']
  else if c == '\n' then ['\\', 'n']
  else if c == '\r' then ['\\', 'r']
  else if 32 ≤ byte.toNat && byte.toNat < 127 then [c]
  else '\\' :: 'x' :: Text.hexDigits 2 byte.toNat

def writeBytes (bytes : List UInt8) : String :=
  let quote := Text.quoteFor (bytes.map fun byte => Char.ofNat byte.toNat)
  String.ofList ('b' :: quote :: bytes.flatMap (writeByte quote) ++ [quote])

def writeBoolean (value : Bool) : String := if value then "True" else "False"

mutual

def Value.writeInside : Value → String
  | .null => "None"
  | .boolean value => writeBoolean value
  | .integer value => toString value
  | .decimal value => Number.write value
  | .text value => Text.quoted value
  | .bytes value => writeBytes value
  | .moment value => value.writeInside
  | .sequence elements => "[" ++ elements.writeInside ++ "]"
  | .set .nil => "set()"
  | .set elements => "\x7b" ++ elements.writeInside ++ "\x7d"
  | .pair first second => "(" ++ first.writeInside ++ ", " ++ second.writeInside ++ ")"
  | .mapping fields => "\x7b" ++ fields.writeInside ++ "\x7d"
  | .cycle mapping => if mapping then "\x7b...\x7d" else "[...]"

def Values.writeInside : Values → String
  | .nil => ""
  | .cons head .nil => head.writeInside
  | .cons head tail => head.writeInside ++ ", " ++ tail.writeInside

def Fields.writeInside : Fields → String
  | .nil => ""
  | .cons key value .nil => key.writeInside ++ ": " ++ value.writeInside
  | .cons key value tail =>
      key.writeInside ++ ": " ++ value.writeInside ++ ", " ++ tail.writeInside

end

/-- A value as text. A text stands for itself. -/
def Value.write : Value → String
  | .text value => value
  | .moment value => value.write
  | value => value.writeInside

/-! ## Kinds, truth and keys -/

def Value.typeName : Value → String
  | .null => "NoneType"
  | .boolean _ => "bool"
  | .integer _ => "int"
  | .decimal _ => "float"
  | .text _ => "str"
  | .bytes _ => "bytes"
  | .moment value => if value.time.isNone then "datetime.date" else "datetime.datetime"
  | .sequence _ => "list"
  | .set _ => "set"
  | .pair _ _ => "tuple"
  | .mapping _ => "dict"
  | .cycle isMapping => if isMapping then "dict" else "list"

/-- Whether a value counts as true. Empty and zero values count as false. -/
def Value.isTrue : Value → Bool
  | .null => false
  | .boolean value => value
  | .integer value => value != 0
  | .decimal value => !value.isZero
  | .text value => value != ""
  | .bytes value => !value.isEmpty
  | .moment _ => true
  | .sequence elements | .set elements => !elements.toList.isEmpty
  | .pair _ _ => true
  | .mapping .nil => false
  | .mapping _ => true
  | .cycle _ => true

/-- The whole number that a value is, if it is one. Truth counts as one. -/
def Value.whole? : Value → Option Int
  | .boolean value => some (if value then 1 else 0)
  | .integer value => some value
  | .decimal value => value.integer?
  | _ => none

/-- Whether two values are the same key. Numbers are compared by value. -/
def Value.sameKey (a b : Value) : Bool :=
  match a.whole?, b.whole? with
  | some m, some n => m == n
  | none, none =>
      match a, b with
      | .decimal x, .decimal y => x.eq y
      | a, b => a == b
  | _, _ => false

namespace Fields

def toList : Fields → List (Value × Value)
  | .nil => []
  | .cons key value tail => (key, value) :: tail.toList

def ofList : List (Value × Value) → Fields
  | [] => .nil
  | (key, value) :: tail => .cons key value (ofList tail)

/-- Set the value of a key. A key that is there already stays as it is. -/
def set : Fields → Value → Value → Fields
  | .nil, key, value => .cons key value .nil
  | .cons other old tail, key, value =>
      if other.sameKey key then .cons other value tail else .cons other old (tail.set key value)

def get? : Fields → Value → Option Value
  | .nil, _ => none
  | .cons other value tail, key => if other.sameKey key then some value else tail.get? key

def field (fields : Fields) (name : String) : Value := (fields.get? (.text name)).getD .null

def ofPairs (pairs : List (Value × Value)) : Fields :=
  pairs.foldl (fun fields (key, value) => fields.set key value) .nil

end Fields

/-- A reader of documents: what the text of a file holds, or why it cannot be read. -/
abbrev Reader := String → Except Fault Value

end Runbook.Document
