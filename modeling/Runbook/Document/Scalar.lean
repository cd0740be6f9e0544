import Runbook.Document.Fault
import Runbook.Document.Value
import Runbook.Files.Path
import Runbook.Number.Reading
import Runbook.Pattern.Search

/-!
What scalars stand for. A plain scalar without a tag is a value of another kind
than text if it is written like one.
-/

namespace Runbook.Document

inductive Tag
  | null
  | boolean
  | integer
  | decimal
  | moment
  | bytes
  | text
  | sequence
  | mapping
  | set
  | orderedMapping
  | pairs
  | merge
  | defaultValue
  | other (name : String)
  deriving DecidableEq, Repr

namespace Tag

/-- What the names of the tags of the common kinds start with. -/
def commonStart : String := "tag:yaml.org,2002:"

def common : List (String × Tag) :=
  [("null", .null), ("bool", .boolean), ("int", .integer), ("float", .decimal),
    ("timestamp", .moment), ("binary", .bytes), ("str", .text), ("seq", .sequence),
    ("map", .mapping), ("set", .set), ("omap", .orderedMapping), ("pairs", .pairs),
    ("merge", .merge), ("value", .defaultValue)]

def ofName (name : String) : Tag :=
  if commonStart.toList.isPrefixOf name.toList then
    (common.lookup (String.ofList (name.toList.drop commonStart.length))).getD (.other name)
  else .other name

end Tag

/-! ## Forms of plain scalars -/

def form (pattern : String) : Option Pattern := (Pattern.ofText (fun _ => none) pattern).toOption

def booleanForm : Option Pattern :=
  form "(?:yes|Yes|YES|no|No|NO|true|True|TRUE|false|False|FALSE|on|On|ON|off|Off|OFF)\\n?"

def decimalForm : Option Pattern :=
  form ("(?:[-+]?[0-9][0-9_]*\\.[0-9_]*(?:[eE][-+][0-9]+)?|\\.[0-9][0-9_]*(?:[eE][-+][0-9]+)?" ++
    "|[-+]?[0-9][0-9_]*(?::[0-5]?[0-9])+\\.[0-9_]*|[-+]?\\.(?:inf|Inf|INF)" ++
    "|\\.(?:nan|NaN|NAN))\\n?")

def integerForm : Option Pattern :=
  form ("(?:[-+]?0b[0-1_]+|[-+]?0[0-7_]+|[-+]?(?:0|[1-9][0-9_]*)|[-+]?0x[0-9a-fA-F_]+" ++
    "|[-+]?[1-9][0-9_]*(?::[0-5]?[0-9])+)\\n?")

def nullForm : Option Pattern := form "(?:~|null|Null|NULL|)\\n?"

def momentForm : Option Pattern :=
  form ("(?:[0-9][0-9][0-9][0-9]-[0-9][0-9]-[0-9][0-9]" ++
    "|[0-9][0-9][0-9][0-9]-[0-9][0-9]?-[0-9][0-9]?(?:[Tt]|[ \\t]+)[0-9][0-9]?:[0-9][0-9]:[0-9][0-9]" ++
    "(?:\\.[0-9]*)?(?:[ \\t]*(?:Z|[-+][0-9][0-9]?(?::[0-9][0-9])?))?)\\n?")

def hasForm (form : Option Pattern) (text : List Char) : Bool :=
  form.any fun pattern => pattern.fullMatch text

def plainTag (text : String) : Tag :=
  let chars := text.toList
  if hasForm booleanForm chars then .boolean
  else if hasForm decimalForm chars then .decimal
  else if hasForm integerForm chars then .integer
  else if hasForm nullForm chars then .null
  else if hasForm momentForm chars then .moment
  else if text == "<<" then .merge
  else if text == "=" then .defaultValue
  else .text

/-! ## Values -/

abbrev Reading := Except Fault

/-- A sign and what follows it. There has to be something. -/
def takeSign (text : List Char) : Reading (Bool × List Char) :=
  match text with
  | [] => .error .emptyNumber
  | '-' :: rest => .ok (true, rest)
  | '+' :: rest => .ok (false, rest)
  | rest => .ok (false, rest)

/-- The parts of a number to the base sixty, the first of which counts most. -/
def partsOf (text : List Char) : List (List Char) := Files.Path.splitOn ':' text

/-- The letters that tell, behind a zero, which base the digits have. -/
def baseLetters : List (Char × Nat) := [('b', 2), ('o', 8), ('x', 16)]

def skipBase (base : Nat) : List Char → List Char
  | '0' :: c :: digits =>
      if baseLetters.lookup c.toLower == some base then digits else '0' :: c :: digits
  | digits => digits

/-- The value of digits to a base, between blanks and with an optional sign. -/
def digitsToBase (base : Nat) (text : List Char) : Reading Int := do
  let (negative, digits) := Number.takeSign (Number.normalizeDigits text)
  let digits := skipBase base digits
  let digitOf (c : Char) : Nat :=
    if c.isDigit then c.toNat - 48 else if c.isAlpha then c.toLower.toNat - 87 else 99
  if digits.isEmpty || digits.any (fun c => base ≤ digitOf c) then
    throw (.impossible (.integer base (String.ofList text)))
  else if base == 10 && 4300 < digits.length then
    throw (.impossible (.longInteger digits.length))
  else
    let magnitude : Int := digits.foldl (fun value c => value * base + digitOf c) 0
    return if negative then -magnitude else magnitude

def readInteger (text : String) : Reading Value := do
  let (negative, body) ← takeSign (text.toList.filter (· != '_'))
  let magnitude ← (do
    match body with
    | ['0'] => return 0
    | '0' :: 'b' :: digits => digitsToBase 2 digits
    | '0' :: 'x' :: digits => digitsToBase 16 digits
    | '0' :: _ => digitsToBase 8 body
    | [] => throw .emptyNumber
    | _ =>
        let parts ← (partsOf body).mapM (digitsToBase 10)
        return parts.foldl (fun value part => value * 60 + part) 0)
  return .integer (if negative then -magnitude else magnitude)

/-- Add up the parts of a decimal, the last of which counts once. Only so many parts
can be counted. -/
def addParts (parts : List Double) : Reading Double := do
  let units := (List.range parts.length).map fun place => Double.ofNat (Nat.pow 60 place)
  if units.any (· == .infinite false) then throw .decimalTooLarge
  else return (parts.reverse.zip units).foldl (fun total (part, unit) => total + part * unit) 0

def readPart (text : List Char) : Reading Double :=
  match Number.read? (String.ofList text) with
  | some value => .ok value
  | none => .error (.impossible (.decimal (String.ofList text)))

def readDecimal (text : String) : Reading Value := do
  let (negative, body) ← takeSign ((text.toList.filter (· != '_')).map Char.toLower)
  let signed (value : Double) : Double := if negative then -value else value
  if body == ".inf".toList then return .decimal (.infinite negative)
  else if body == ".nan".toList then return .decimal .notANumber
  else if body.contains ':' then
    return .decimal (signed (← addParts (← (partsOf body).mapM readPart)))
  else return .decimal (signed (← readPart body))

def booleanWords : List (String × Bool) :=
  [("yes", true), ("no", false), ("true", true), ("false", false), ("on", true), ("off", false)]

def readBoolean (text : String) : Reading Value :=
  match booleanWords.lookup text.toLower with
  | some value => .ok (.boolean value)
  | none => .error (.unknownWord text.toLower)

/-! ## Dates -/

def isLeapYear (year : Nat) : Bool := year % 4 == 0 && (year % 100 != 0 || year % 400 == 0)

def daysIn (year month : Nat) : Nat :=
  if month == 2 then if isLeapYear year then 29 else 28
  else if month == 4 || month == 6 || month == 9 || month == 11 then 30
  else 31

def checkMoment (moment : Moment) : Reading Value := do
  let refuse (value : Impossible) : Reading Unit := throw (.impossible value)
  if (moment.time.bind (·.offset)).any fun offset => 1440 ≤ offset.natAbs then refuse .offset
  if moment.year == 0 then refuse (.year moment.year)
  if moment.month == 0 || 12 < moment.month then refuse .month
  if moment.day == 0 || daysIn moment.year moment.month < moment.day then refuse .day
  match moment.time with
  | none => return .moment moment
  | some time =>
      if 24 ≤ time.hour then refuse .hour
      if 60 ≤ time.minute then refuse .minute
      if 60 ≤ time.second then refuse .second
      return .moment moment

/-- The runs of digits in a text, with the sign in front of each. -/
def numbersIn : List Char → (current : List Char) → (sign : Option Char) →
    List (Option Char × List Char)
  | [], current, sign => if current.isEmpty then [] else [(sign, current.reverse)]
  | c :: rest, current, sign =>
      if c.isDigit then numbersIn rest (c :: current) sign
      else
        let next := some c
        if current.isEmpty then numbersIn rest [] next
        else (sign, current.reverse) :: numbersIn rest [] next

def number (digits : List Char) : Nat := Number.digitsValue digits

/-- The first six digits of a fraction of a second. -/
def microseconds (digits : List Char) : Nat :=
  let digits := digits.take 6
  number (digits ++ List.replicate (6 - digits.length) '0')

/-- The fields of a moment, in the order in which they are written. -/
def readMoment (text : String) : Reading Value :=
  let chars := text.toList
  if !hasForm momentForm chars then .error .shapelessMoment
  else match numbersIn chars [] none with
  | (_, year) :: (_, month) :: (_, day) :: rest =>
      let date (time : Option Time) : Moment := ⟨number year, number month, number day, time⟩
      match rest with
      | (_, hour) :: (_, minute) :: (_, second) :: rest =>
          let (fraction, zone) := match rest with
            | (some '.', digits) :: zone => (microseconds digits, zone)
            | zone => (0, zone)
          let offset := match zone with
            | (sign, hours) :: minutes =>
                let minutes := (minutes.head?.map fun part => number part.2).getD 0
                let distance : Int := number hours * 60 + minutes
                some (if sign == some '-' then -distance else distance)
            | [] => if chars.any (· == 'Z') then some 0 else none
          checkMoment (date (some ⟨number hour, number minute, number second, fraction, offset⟩))
      | _ => checkMoment (date none)
  | _ => .error .shapelessMoment

/-! ## Bytes -/

def sextet? (c : Char) : Option Nat :=
  if 'A' ≤ c && c ≤ 'Z' then some (c.toNat - 65)
  else if 'a' ≤ c && c ≤ 'z' then some (c.toNat - 71)
  else if c.isDigit then some (c.toNat + 4)
  else if c == '+' then some 62
  else if c == '/' then some 63
  else none

/-- The bytes that groups of four digits stand for. -/
def joinSextets : List Nat → Option (List UInt8)
  | [] => some []
  | [_] => none
  | [a, b] => some [(a * 4 + b / 16).toUInt8]
  | [a, b, c] => some [(a * 4 + b / 16).toUInt8, (b * 16 + c / 4).toUInt8]
  | a :: b :: c :: d :: rest => do
      let others ← joinSextets rest
      return (a * 4 + b / 16).toUInt8 :: (b * 16 + c / 4).toUInt8 :: (c * 64 + d).toUInt8 :: others

/-- Characters that are no digits are passed over. The last group has to be filled
up with equals signs. -/
def readBytes (text : String) : Reading Value :=
  let chars := text.toList
  let sextets := chars.filterMap sextet?
  let padding := chars.count '='
  let complete := sextets.length % 4 == 0 || 4 ≤ sextets.length % 4 + padding
  match joinSextets sextets with
  | some bytes => if complete then .ok (.bytes bytes) else .error (.at .values 0 "Incorrect padding")
  | none => .error (.at .values 0 "Incorrect padding")

end Runbook.Document
