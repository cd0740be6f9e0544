import Runbook.Pattern.Match
import Runbook.Pattern.Parser

/-!
Finding the matches of a pattern in a text: whether it matches the whole text,
and the pieces into which its matches cut the text. Matches are found from left
to right; a match that takes no text is not found twice at one position.
-/

namespace Runbook

namespace Pattern

/-- Match at a position. A match that takes no text can be excluded. -/
def matchAt (pattern : Pattern) (nonempty : Bool) (cursor : Cursor) : Option Cursor :=
  pattern.node.run { cursor with captures := [] } fun finish =>
    if nonempty && finish.index == cursor.index then none else some finish

def fullMatch (pattern : Pattern) (text : List Char) : Bool :=
  (pattern.node.run (.start text) fun finish =>
    if finish.after.isEmpty then some finish else none).isSome

/-- A match, and the text between the place where the search began and it. -/
structure Found where
  skipped : List Char
  matched : List Char
  finish : Cursor

/-- The first match at a position or behind it. Only at the position itself are
matches excluded that take no text. `skipped` is held in reverse. -/
def searchFrom (pattern : Pattern) (nonempty : Bool) (skipped : List Char) :
    (fuel : Nat) → Cursor → Option Found
  | 0, _ => none
  | fuel + 1, cursor =>
      match pattern.matchAt nonempty cursor with
      | some finish => some ⟨skipped.reverse, cursor.textUntil finish, finish⟩
      | none =>
          match cursor.after with
          | [] => none
          | c :: _ => searchFrom pattern false (c :: skipped) fuel cursor.forward

def search (pattern : Pattern) (nonempty : Bool) (cursor : Cursor) : Option Found :=
  pattern.searchFrom nonempty [] (cursor.after.length + 1) cursor

/-- The matches in a text, at most `most` of them, and the text behind the last. -/
def matchesFrom (pattern : Pattern) (most : Option Nat) :
    (fuel : Nat) → (nonempty : Bool) → Cursor → List Found × List Char
  | 0, _, cursor => ([], cursor.after)
  | fuel + 1, nonempty, cursor =>
      if most == some 0 then ([], cursor.after)
      else
        match pattern.search nonempty cursor with
        | none => ([], cursor.after)
        | some found =>
            let (others, rest) := matchesFrom pattern (most.map (· - 1)) fuel
              found.matched.isEmpty found.finish
            (found :: others, rest)

def findAll (pattern : Pattern) (most : Option Nat) (text : List Char) :
    List Found × List Char :=
  pattern.matchesFrom most (2 * text.length + 2) false (.start text)

def Found.captures (pattern : Pattern) (found : Found) : List (Option (List Char)) :=
  (List.range pattern.groups).map fun index => found.finish.captured? (index + 1)

/-- Cut a text at the matches. What the groups captured is kept between the
pieces; a group that captured nothing leaves no text. -/
def split (pattern : Pattern) (text : List Char) : List (Option (List Char)) :=
  let (found, rest) := pattern.findAll none text
  found.flatMap (fun one => some one.skipped :: one.captures pattern) ++ [some rest]

end Pattern

end Runbook
