/-!
# Powers of two and ten

The two powers that the formats of numbers are made of, as natural numbers.
-/

namespace Scaffold

/-- The power of two with exponent `k`. -/
def twoTo (k : Nat) : Nat := Nat.pow 2 k

/-- The power of ten with exponent `k`. -/
def tenTo (k : Nat) : Nat := Nat.pow 10 k

end Scaffold
