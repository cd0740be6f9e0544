/-!
Replacing every occurrence of one text by another. Occurrences are taken from
left to right and do not overlap, and replaced text is not searched again.
-/

namespace Runbook.Text

/-- Replace the occurrences of `old` after passing over `skip` characters that
belong to the last occurrence found. -/
def substituteFrom (old new : List Char) : Nat → List Char → List Char
  | _, [] => []
  | skip + 1, _ :: rest => substituteFrom old new skip rest
  | 0, c :: rest =>
      if old.isPrefixOf (c :: rest) then
        new ++ substituteFrom old new (old.length - 1) rest
      else c :: substituteFrom old new 0 rest

/-- Replace every occurrence of `old` by `new`. An empty `old` occurs before
every character and at the end. -/
def substitute (old new text : List Char) : List Char :=
  if old.isEmpty then text.foldr (fun c rest => new ++ c :: rest) new
  else substituteFrom old new 0 text

/-- The first position at which `part` occurs, as the text before and after it. -/
def splitAtFirst (part : List Char) : List Char → Option (List Char × List Char)
  | [] => if part.isEmpty then some ([], []) else none
  | c :: rest =>
      if part.isPrefixOf (c :: rest) then some ([], (c :: rest).drop part.length)
      else (splitAtFirst part rest).map fun (before, after) => (c :: before, after)

def contains (part text : List Char) : Bool := (splitAtFirst part text).isSome

@[simp] theorem substituteFrom_nil (old new : List Char) (skip : Nat) :
    substituteFrom old new skip [] = [] := by
  cases skip <;> rfl

theorem substituteFrom_eq_drop (old new : List Char) (skip : Nat) (text : List Char) :
    substituteFrom old new skip text = substituteFrom old new 0 (text.drop skip) := by
  induction skip generalizing text with
  | zero => rfl
  | succ skip induction =>
      cases text with
      | nil => simp
      | cons c rest => simpa [substituteFrom] using induction rest

end Runbook.Text
