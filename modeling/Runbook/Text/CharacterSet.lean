/-!
Sets of characters given by the code points at which membership changes. The
classes of Unicode are unions of many short intervals, and a sorted list of
boundaries describes each of them directly.
-/

namespace Runbook.Text

/-- A set of characters. The set starts outside and changes sides at each
boundary. -/
structure CharacterSet where
  boundaries : Array Nat

namespace CharacterSet

def contains (set : CharacterSet) (c : Char) : Bool :=
  set.boundaries.foldl (fun inside boundary =>
    if boundary ≤ c.toNat then !inside else inside) false

end CharacterSet

end Runbook.Text
