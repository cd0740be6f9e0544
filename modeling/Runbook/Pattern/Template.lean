import Runbook.Pattern.Search

/-!
Templates: the text that takes the place of a match. It can refer to groups of
the pattern by number or by name.
-/

namespace Runbook.Pattern

/-- A part of a template. Group zero is the whole match. -/
inductive Part
  | text (text : List Char)
  | group (number : Nat)
  deriving DecidableEq, Repr

open Reader

/-- A part that refers to a group, if the pattern has it. -/
def groupPart (pattern : Pattern) (number back : Nat) : Reader Part := do
  if pattern.groups < number then fail (.noSuchGroup number) back else return .group number

/-- A reference with a name or a number between angle brackets. -/
def readGroupReference (pattern : Pattern) : Reader Part := do
  if !(← take? '<') then fail .missingAngle 0
  else
    let name ← takeName '>' "group name"
    let back := name.length + 1
    if Text.isIdentifier name then
      match pattern.names.lookup (String.ofList name) with
      | some number => groupPart pattern number back
      | none => failAnywhere (.unknownTemplateGroup (String.ofList name))
    else
      match Number.readInteger? (String.ofList name) with
      | some (.ofNat number) =>
          if 1073741823 ≤ number then fail (.noSuchGroup number) back
          else groupPart pattern number back
      | _ => fail (.badGroupName (String.ofList name)) back

/-- An escape that starts with a digit other than zero. -/
def readNumericPart (pattern : Pattern) (c : Char) : Reader Part := do
  let second ← takeWhile Char.isDigit 1
  let third ← if isOctal c && !second.isEmpty && second.all isOctal then takeWhile isOctal 1
    else pure []
  let digits := c :: second ++ third
  if !third.isEmpty then return .text [Char.ofNat (← octalCode digits)]
  else groupPart pattern (Number.digitsValue digits) digits.length

def readPart (pattern : Pattern) (c : Char) : Reader Part := do
  if c == 'g' then readGroupReference pattern
  else if c == '0' then
    return .text [Char.ofNat (octalValue (← takeWhile isOctal 2) % 256)]
  else if c.isDigit then readNumericPart pattern c
  else
    match controlCode? c with
    | some code => return .text [Char.ofNat code]
    | none =>
        if c.isAlpha then fail (.badEscape (String.ofList ['\\', c])) 2
        else return .text ['\\', c]

def readParts (pattern : Pattern) : (fuel : Nat) → Reader (List Part)
  | 0 => return []
  | fuel + 1 => do
      match ← take with
      | none => return []
      | some (.plain c) => return .text [c] :: (← readParts pattern fuel)
      | some (.escape c) => return (← readPart pattern c) :: (← readParts pattern fuel)

def readTemplate (pattern : Pattern) (template : String) : Except Error (List Part) := do
  let text := template.toList
  let source ← Source.ofText text
  let reading : Reading := ⟨fun _ => none, source, [], [], none, [], false, false, false⟩
  return (← (readParts pattern (text.length + 1)).run reading).1

/-- The text that takes the place of a match. A group without a capture leaves
nothing. -/
def expandTemplate (template : List Part) (found : Found) : List Char :=
  template.flatMap fun
    | .text text => text
    | .group number =>
        if number == 0 then found.matched else (found.finish.captured? number).getD []

/-- Replace the matches in a text, at most `most` of them. -/
def replace (pattern : Pattern) (template : List Part) (most : Option Nat)
    (text : List Char) : List Char :=
  let (found, rest) := pattern.findAll most text
  found.flatMap (fun one => one.skipped ++ expandTemplate template one) ++ rest

end Runbook.Pattern
