/-!
# Powers of two and ten

The units of binary and of decimal notation.
-/

namespace CallToAction

/-- The power of two with an exponent. -/
def twoTo (k : Nat) : Nat := Nat.pow 2 k

/-- The power of ten with an exponent. -/
def tenTo (k : Nat) : Nat := Nat.pow 10 k

theorem twoTo_pos (k : Nat) : 0 < twoTo k := Nat.pow_pos (n := k) (by decide)

theorem tenTo_pos (k : Nat) : 0 < tenTo k := Nat.pow_pos (n := k) (by decide)

end CallToAction
