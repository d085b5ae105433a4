/-!
# Rounding a quotient to the nearest whole number

`roundDiv n d` is the whole number nearest to `n / d`; a quotient that lies exactly halfway goes
to its even neighbour.  Every rounding of this library, to decimal places or to a double, is an
instance of it.
-/

namespace CallToAction

/-- The whole number nearest to `n / d`; a tie goes to the even neighbour. -/
def roundDiv (n d : Nat) : Nat :=
  if d < 2 * (n % d) ∨ 2 * (n % d) = d ∧ n / d % 2 = 1 then n / d + 1 else n / d

end CallToAction
