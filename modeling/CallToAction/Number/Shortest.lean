import CallToAction.Number.Binary64

/-!
# The shortest decimal of a double

The reals nearest to one double form an interval around it, its *band*.  `Band.shortest` is the
decimal with the fewest digits in the band, and of those the one closest to the double; of two that
are equally close a `Tie` takes one.

For each number of digits only two decimals need a look: the double's neighbours on that grid.  If
any point of a grid lies in the band, one of these two does.  All comparisons are between whole
numbers, so nothing is rounded on the way.
-/

namespace CallToAction

/-- The number `digits * 10 ^ exponent`. -/
structure Decimal where
  digits : Nat
  exponent : Int
  deriving DecidableEq, Repr

namespace Decimal

/-- The decimal digits, most significant first. -/
def text (d : Decimal) : List Char := Nat.toDigits 10 d.digits

/-- The exponent of the leading digit. -/
def leading (d : Decimal) : Int := d.exponent + d.text.length - 1

/-- The same number without trailing zero digits. -/
def trim (d : Decimal) : Decimal :=
  if h : d.digits ≠ 0 ∧ d.digits % 10 = 0 then trim ⟨d.digits / 10, d.exponent + 1⟩ else d
termination_by d.digits
decreasing_by omega

end Decimal

/-- Which of two neighbours on a grid is taken when both are equally close. -/
inductive Tie
  | up
  | even
  deriving DecidableEq, Repr

/-- The reals that round to one positive double: from `low / unit` to `high / unit`, around the
double `mid / unit`, with or without the two ends. -/
structure Band where
  low : Nat
  mid : Nat
  high : Nat
  unit : Nat
  closed : Bool

namespace Band

/-- The band of `mantissa * 2 ^ exponent`.  Its ends lie halfway to the neighbouring doubles, and
belong to it when the mantissa is even; below a power of two the neighbour is half as far. -/
def ofParts (mantissa : Nat) (exponent : Int) : Band :=
  let scale := twoTo (exponent - 2).toNat
  let below := if mantissa = twoTo 52 ∧ -1074 < exponent then 1 else 2
  { low := (4 * mantissa - below) * scale
    mid := 4 * mantissa * scale
    high := (4 * mantissa + 2) * scale
    unit := twoTo (2 - exponent).toNat
    closed := mantissa % 2 == 0 }

/-- The exponent of the leading decimal digit of the double. -/
def leading (b : Band) : Int :=
  if b.unit ≤ b.mid then (Nat.toDigits 10 (b.mid / b.unit)).length - 1
  else -((Nat.toDigits 10 ((b.unit - 1) / b.mid)).length : Int)

/-- Whether `d` lies in the band. -/
def contains (b : Band) (d : Decimal) : Bool :=
  let x := d.digits * tenTo d.exponent.toNat * b.unit
  let one := tenTo (-d.exponent).toNat
  if b.closed then b.low * one ≤ x ∧ x ≤ b.high * one
  else b.low * one < x ∧ x < b.high * one

/-- The greatest multiple of `10 ^ k` that does not exceed the double. -/
def floor (b : Band) (k : Int) : Decimal :=
  ⟨b.mid * tenTo (-k).toNat / (b.unit * tenTo k.toNat), k⟩

/-- Whether `d` is taken rather than the next decimal on its grid. -/
def prefers (b : Band) (tie : Tie) (d : Decimal) : Bool :=
  let double := 2 * b.mid * tenTo (-d.exponent).toNat
  let middle := (2 * d.digits + 1) * tenTo d.exponent.toNat * b.unit
  double < middle ∨ double = middle ∧ tie = .even ∧ d.digits % 2 = 0

/-- The multiple of `10 ^ k` in the band that is closest to the double. -/
def onGrid? (b : Band) (tie : Tie) (k : Int) : Option Decimal :=
  let below := b.floor k
  let above : Decimal := ⟨below.digits + 1, k⟩
  if b.contains below && (b.prefers tie below || !b.contains above) then some below
  else if b.contains above then some above
  else none

/-- The shortest decimal in the band; seventeen digits always suffice. -/
def shortest (b : Band) (tie : Tie) : Decimal :=
  let grid? := (List.range 17).findSome? fun i => b.onGrid? tie (b.leading - (i : Nat))
  (grid?.getD (b.floor (b.leading - 16))).trim

end Band

end CallToAction
