import CallToAction.Number.Power
import CallToAction.Number.Rounding

/-!
# Doubles as signed multiples of powers of two

A finite double is `± mantissa · 2 ^ exponent`.  `Binary64.ofFloat` takes a double apart, and
`Binary64.nearest` goes the other way: from any fraction to the double nearest to it.

The word of a double is its biased exponent times `2 ^ 52` plus the bits of its fraction.  For the
quotient `m`, rounded at the unit `2 ^ q`, this word is `(q + 1074) * 2 ^ 52 + m` in all cases:
below the least normal double, at a normal one, and where rounding carries into the next exponent.
-/

namespace CallToAction

/-- A double taken apart: a finite one has the value `± mantissa * 2 ^ exponent`. -/
inductive Binary64
  | nan
  | infinity (negative : Bool)
  | finite (negative : Bool) (mantissa : Nat) (exponent : Int)
  deriving DecidableEq, Repr

namespace Binary64

/-- The parts of a double, read off its bits. -/
def ofFloat (x : Float) : Binary64 :=
  let bits := x.toBits.toNat
  let negative := bits / twoTo 63 % 2 == 1
  let field : Nat := bits / twoTo 52 % twoTo 11
  let fraction : Nat := bits % twoTo 52
  if field = 2047 then
    if fraction = 0 then .infinity negative else .nan
  else if field = 0 then .finite negative fraction (-1074)
  else .finite negative (twoTo 52 + fraction) ((field : Int) - 1075)

/-- The exponent of the greatest power of two that is at most `n / d`, for positive `n` and `d`. -/
def binaryExponent (n d : Nat) : Int :=
  let guess : Int := (n.log2 : Int) - d.log2
  if n * twoTo (-guess).toNat < d * twoTo guess.toNat then guess - 1 else guess

/-- The word, without its sign bit, of the double nearest to `n / d`; a tie goes to the even
mantissa, and what exceeds the greatest double goes to infinity. -/
def nearestBits (n d : Nat) : Nat :=
  if n = 0 then 0
  else if 1023 < binaryExponent n d then 2047 * twoTo 52
  else
    let unit : Int := if binaryExponent n d < -1022 then -1074 else binaryExponent n d - 52
    let m := roundDiv (n * twoTo (-unit).toNat) (d * twoTo unit.toNat)
    (unit + 1074).toNat * twoTo 52 + m

/-- The double nearest to `± n / d`. -/
def nearest (negative : Bool) (n d : Nat) : Float :=
  .ofBits (.ofNat ((if negative then twoTo 63 else 0) + nearestBits n d))

/-- The infinity of a sign. -/
def infinite (negative : Bool) : Float :=
  .ofBits (.ofNat ((if negative then twoTo 63 else 0) + 2047 * twoTo 52))

/-- The double nearest to `± digits * 10 ^ exponent`.

Beyond 309 places before the point every value exceeds the greatest double, and one that starts
more than 323 places behind it is nearer to zero than to the least double. -/
def ofDecimal (negative : Bool) (digits : Nat) (exponent : Int) : Float :=
  let places : Int := (Nat.toDigits 10 digits).length + exponent
  if digits = 0 ∨ places ≤ -324 then nearest negative 0 1
  else if 310 ≤ places then infinite negative
  else nearest negative (digits * tenTo exponent.toNat) (tenTo (-exponent).toNat)

end Binary64

end CallToAction
