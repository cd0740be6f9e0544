import Runbook.Pattern.Syntax
import Runbook.Text.Blank
import Runbook.Text.DecimalDigit
import Runbook.Text.LetterCase
import Runbook.Text.WordCharacter

/-!
Matching. A node is matched at a position, and every way in which it matches is
offered in turn to what has to match behind it, until one way is accepted.
-/

namespace Runbook.Pattern

/-! ## Characters -/

def Category.contains (category : Category) (ascii : Bool) (c : Char) : Bool :=
  match category with
  | .digit => if ascii then c.isDigit else Text.isDecimalDigit c
  | .space => if ascii then c == ' ' || (9 ≤ c.toNat && c.toNat ≤ 13) else Text.isBlank c
  | .word => if ascii then c.isAlphanum || c == '_' else Text.isWordCharacter c

/-- The code points that count as equal to a character. -/
def CaseRule.variants (rule : CaseRule) (c : Char) : List Nat :=
  match rule with
  | .exact => [c.toNat]
  | .ascii => Text.asciiCaseVariants c.toNat
  | .unicode => Text.caseVariants c.toNat

def CharacterTest.accepts (test : CharacterTest) (c : Char) : Bool :=
  let variants := test.caseRule.variants c
  let listed := test.members.any fun
    | .range first last => variants.any fun code => first ≤ code && code ≤ last
    | .category category negated => category.contains test.asciiClasses c != negated
  listed != test.negated

def CaseRule.same (rule : CaseRule) (a b : Char) : Bool :=
  a == b || (rule.variants a).contains b.toNat

/-! ## Positions -/

/-- A position in a text, with the text before it in reverse, and what the groups
have captured, the newest capture first. -/
structure Cursor where
  before : List Char
  after : List Char
  index : Nat
  captures : List (Nat × List Char)
  deriving DecidableEq, Repr

namespace Cursor

def start (text : List Char) : Cursor := ⟨[], text, 0, []⟩

def forward (cursor : Cursor) : Cursor :=
  match cursor.after with
  | [] => cursor
  | c :: rest => { cursor with before := c :: cursor.before, after := rest, index := cursor.index + 1 }

def back (cursor : Cursor) : Cursor :=
  match cursor.before with
  | [] => cursor
  | c :: rest => { cursor with before := rest, after := c :: cursor.after, index := cursor.index - 1 }

def captured? (cursor : Cursor) (group : Nat) : Option (List Char) :=
  cursor.captures.lookup group

def textUntil (start finish : Cursor) : List Char :=
  start.after.take (finish.index - start.index)

def capture (start finish : Cursor) (group : Nat) : Cursor :=
  { finish with captures := (group, textUntil start finish) :: finish.captures }

def isWordBoundary (cursor : Cursor) (ascii : Bool) : Bool :=
  let isWord (c : Option Char) : Bool := c.any (Category.word.contains ascii)
  isWord cursor.before.head? != isWord cursor.after.head?

end Cursor

/-- Whether an anchor holds at a position. An empty text has neither boundaries
nor places that are not boundaries. -/
def Anchor.holds (anchor : Anchor) (cursor : Cursor) : Bool :=
  match anchor with
  | .textStart => cursor.before.isEmpty
  | .lineStart => cursor.before.isEmpty || cursor.before.head? == some '\n'
  | .textEnd => cursor.after.isEmpty
  | .lastLineEnd => cursor.after.isEmpty || cursor.after == ['\n']
  | .lineEnd => cursor.after.isEmpty || cursor.after.head? == some '\n'
  | .boundary expected ascii =>
      !(cursor.before.isEmpty && cursor.after.isEmpty) &&
        cursor.isWordBoundary ascii == expected

/-! ## Repetitions -/

/-- What follows a node: it accepts a position or refuses it. -/
abbrev Continuation := Cursor → Option Cursor

/-- A node as it is matched. -/
abbrev Matcher := Cursor → Continuation → Option Cursor

/-- Repeat a matcher with backtracking. `last` is the index at which the latest
repetition beyond the required ones began; a repetition that takes no text is
not followed by another. -/
def repeatMatch (body : Matcher) (lazy : Bool) (most : Option Nat) :
    (fuel required count : Nat) → (last : Option Nat) → Matcher
  | 0, _, _, _, cursor, continuation => continuation cursor
  | fuel + 1, required + 1, count, last, cursor, continuation =>
      body cursor fun cursor =>
        repeatMatch body lazy most fuel required (count + 1) last cursor continuation
  | fuel + 1, 0, count, last, cursor, continuation =>
      let again : Unit → Option Cursor := fun _ =>
        if most.any (· ≤ count) || last == some cursor.index then none
        else
          body cursor fun next =>
            repeatMatch body lazy most fuel 0 (count + 1) (some cursor.index) next continuation
      if lazy then (continuation cursor).or (again ()) else (again ()).or (continuation cursor)

/-- Repeat a matcher as often as possible, taking the first way in which it
matches each time. -/
def repeatFirst (body : Matcher) (most : Option Nat) :
    (fuel required count : Nat) → Cursor → Option Cursor
  | 0, _, _, cursor => some cursor
  | fuel + 1, required + 1, count, cursor =>
      (body cursor some).bind (repeatFirst body most fuel required (count + 1))
  | fuel + 1, 0, count, cursor =>
      if most.any (· ≤ count) then some cursor
      else
        match body cursor some with
        | none => some cursor
        | some next =>
            if next.index == cursor.index then some next
            else repeatFirst body most fuel 0 (count + 1) next

/-! ## Nodes -/

def takeText (rule : CaseRule) : List Char → Cursor → Option Cursor
  | [], cursor => some cursor
  | c :: rest, cursor =>
      match cursor.after with
      | [] => none
      | d :: _ => if rule.same c d then takeText rule rest cursor.forward else none

def stepBack : Nat → Cursor → Cursor
  | 0, cursor => cursor
  | count + 1, cursor => stepBack count cursor.back

def Node.run : Node → Matcher
  | .empty, cursor, continuation => continuation cursor
  | .single test, cursor, continuation =>
      match cursor.after with
      | [] => none
      | c :: _ => if test.accepts c then continuation cursor.forward else none
  | .anchor place, cursor, continuation =>
      if place.holds cursor then continuation cursor else none
  | .sequence first second, cursor, continuation =>
      first.run cursor fun cursor => second.run cursor continuation
  | .choice first second, cursor, continuation =>
      (first.run cursor continuation).or (second.run cursor continuation)
  | .group none body, cursor, continuation => body.run cursor continuation
  | .group (some number) body, cursor, continuation =>
      body.run cursor fun finish => continuation (cursor.capture finish number)
  | .repetition greed least most body, cursor, continuation =>
      let fuel := least + cursor.after.length + 3
      match greed with
      | .greedy => repeatMatch body.run false most fuel least 0 none cursor continuation
      | .lazy => repeatMatch body.run true most fuel least 0 none cursor continuation
      | .possessive => (repeatFirst body.run most fuel least 0 cursor).bind continuation
  | .atomic body, cursor, continuation => (body.run cursor some).bind continuation
  | .reference number rule, cursor, continuation =>
      match cursor.captured? number with
      | none => none
      | some text => (takeText rule text cursor).bind continuation
  | .conditional number present absent, cursor, continuation =>
      match cursor.captured? number with
      | some _ => present.run cursor continuation
      | none => absent.run cursor continuation
  | .lookAhead negated body, cursor, continuation =>
      match body.run cursor some, negated with
      | some found, false => continuation { cursor with captures := found.captures }
      | none, true => continuation cursor
      | _, _ => none
  | .lookBehind negated width _ body, cursor, continuation =>
      let found := if cursor.index < width then none else body.run (stepBack width cursor) some
      match found, negated with
      | some found, false => continuation { cursor with captures := found.captures }
      | none, true => continuation cursor
      | _, _ => none

end Runbook.Pattern
