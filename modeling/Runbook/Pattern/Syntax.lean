/-!
Patterns: regular expressions with captures, references to captures, conditions
on the surroundings of a position, and repetitions of three kinds.
-/

namespace Runbook.Pattern

/-- A class of characters with a name of its own. -/
inductive Category
  | digit
  | space
  | word
  deriving DecidableEq, Repr

/-- A part of a set of characters, given by code points or as a class. -/
inductive Member
  | range (first last : Nat)
  | category (category : Category) (negated : Bool)
  deriving DecidableEq, Repr

inductive CaseRule
  | exact
  | ascii
  | unicode
  deriving DecidableEq, Repr

/-- The characters that may stand at one place. -/
structure CharacterTest where
  negated : Bool
  members : List Member
  caseRule : CaseRule
  asciiClasses : Bool
  deriving DecidableEq, Repr

inductive Anchor
  | textStart
  | lineStart
  | textEnd
  | lastLineEnd
  | lineEnd
  | boundary (expected asciiClasses : Bool)
  deriving DecidableEq, Repr

/-- How many of the possible repetitions are tried first, and whether others are
tried at all. -/
inductive Greed
  | greedy
  | lazy
  | possessive
  deriving DecidableEq, Repr

inductive Node
  | empty
  | single (test : CharacterTest)
  | anchor (anchor : Anchor)
  | sequence (first second : Node)
  | choice (first second : Node)
  | group (number : Option Nat) (body : Node)
  | repetition (greed : Greed) (least : Nat) (most : Option Nat) (body : Node)
  | atomic (body : Node)
  | reference (group : Nat) (caseRule : CaseRule)
  | conditional (group : Nat) (present absent : Node)
  | lookAhead (negated : Bool) (body : Node)
  | lookBehind (negated : Bool) (least most : Nat) (body : Node)
  deriving DecidableEq, Repr

namespace Node

def ofList : List Node → Node
  | [] => .empty
  | [node] => node
  | node :: rest => .sequence node (ofList rest)

/-- Widths beyond this one are not told apart. -/
def widthLimit : Nat := 0x10000000000000000

/-- How few and how many characters a node can take, given the widths of the
groups. -/
def width (groups : Nat → Nat × Nat) : Node → Nat × Nat
  | .empty | .anchor _ | .lookAhead _ _ | .lookBehind _ _ _ _ => (0, 0)
  | .single _ => (1, 1)
  | .sequence first second =>
      let (a, b) := first.width groups
      let (c, d) := second.width groups
      (min (a + c) widthLimit, min (b + d) widthLimit)
  | .choice first second =>
      let (a, b) := first.width groups
      let (c, d) := second.width groups
      (min a c, max b d)
  | .group _ body | .atomic body => body.width groups
  | .repetition _ least most body =>
      let (a, b) := body.width groups
      let longest := match most with
        | some most => b * most
        | none => if b == 0 then 0 else widthLimit
      (min (a * least) widthLimit, min longest widthLimit)
  | .reference number _ => groups number
  | .conditional _ present absent =>
      let (a, b) := present.width groups
      let (c, d) := absent.width groups
      (min a c, max b d)

end Node

end Runbook.Pattern

namespace Runbook

/-- A pattern that has been read. `names` lists the named groups. -/
structure Pattern where
  node : Pattern.Node
  groups : Nat
  names : List (String × Nat)
  deriving DecidableEq, Repr

end Runbook
