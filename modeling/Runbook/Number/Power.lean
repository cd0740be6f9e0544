/-!
Powers of natural numbers.
-/

namespace Runbook.Number

def powerOfTwo (exponent : Nat) : Nat := Nat.pow 2 exponent

def powerOfTen (exponent : Nat) : Nat := Nat.pow 10 exponent

end Runbook.Number
