import CallToAction.Number.Literal

/-!
# Numerals of documents

A numeral is an optional minus sign, digits that do not begin with a needless zero, at most one
fraction and at most one exponent.  `Numeral.read` takes the longest numeral off a text.

Digits are gathered into a significand of 64 bits.  A numeral without fraction and exponent that
fits 64 bits is an integer.  Any other is a double: the one nearest to the significand, multiplied
or divided once by a power of ten.  Digits that do not fit count as a power of ten before the point
and as nothing behind it, so a long numeral may miss its nearest double by one step.  A numeral
beyond the greatest double is refused.

* `length_read_lt`: reading a numeral shortens the text.
-/

namespace CallToAction.Json

/-- Why a text is no document. -/
inductive Fault
  /-- The text ends too early. -/
  | unexpectedEnd
  /-- Something stands where it must not. -/
  | malformed
  deriving DecidableEq, Repr

/-- The wording of a fault. -/
def Fault.message : Fault → String
  | unexpectedEnd => "unexpected end of input"
  | malformed => "syntax error"

/-- The fault of a text whose rest is not what must follow. -/
def Fault.ofRest {α : Type} : List α → Fault
  | [] => unexpectedEnd
  | _ :: _ => malformed

/-- A number of a document. -/
inductive Numeral
  | int (value : Int)
  | float (value : Float)
  deriving DecidableEq

namespace Numeral

/-- A numeral as written. -/
structure Spelled where
  negative : Bool
  whole : List Char
  fraction : List Char
  exponent : Option Int

/-- Append digits to a significand as long as it fits 64 bits: the significand, and how many digits
are left over. -/
def gather (significand : Nat) : List Char → Nat × Nat
  | [] => (significand, 0)
  | c :: cs =>
    let next := 10 * significand + (c.toNat - '0'.toNat)
    if next < UInt64.size then gather next cs else (significand, cs.length + 1)

/-- The double nearest to a natural number. -/
def nearest (n : Nat) : Float := Binary64.nearest false n 1

/-- The double nearest to a power of ten. -/
def powerOfTen (n : Nat) : Float := Binary64.ofDecimal false 1 n

/-- Multiply a double that is not negative by a power of ten; nothing if the result is infinite.
The powers of ten in use are the finite ones, so a deep division is done in steps. -/
def scale (x : Float) (exponent : Int) : Option Float :=
  if exponent.natAbs ≤ 308 then
    if 0 ≤ exponent then
      let y := x * powerOfTen exponent.natAbs
      if y.isInf then none else some y
    else some (x / powerOfTen exponent.natAbs)
  else if x == 0 then some x
  else if 0 ≤ exponent then none
  else scale (x / powerOfTen 308) (exponent + 308)
termination_by exponent.natAbs
decreasing_by omega

/-- The integer of a significand; zero with a sign and what exceeds 64 bits are doubles. -/
def ofInteger (negative : Bool) (significand : Nat) : Numeral :=
  if negative then
    if significand = 0 ∨ twoTo 63 < significand then float (-nearest significand)
    else int (-significand)
  else int significand

/-- The number that is spelled, unless it is beyond the greatest double. -/
def ofSpelled? (s : Spelled) : Option Numeral :=
  let (significand, excess) := gather 0 s.whole
  if s.fraction = [] ∧ s.exponent = none ∧ excess = 0 then some (ofInteger s.negative significand)
  else
    let (significand, ignored) := gather significand s.fraction
    let exponent := s.exponent.getD 0 + excess - (s.fraction.length - ignored : Nat)
    (scale (nearest significand) exponent).map fun x => float (if s.negative then -x else x)

/-- The double nearest to a number. -/
def toFloat : Numeral → Float
  | int i => Binary64.nearest (i < 0) i.natAbs 1
  | float x => x

/-! ### Reading -/

/-- Take digits off a text, at least one. -/
def digits (cs : List Char) : Except Fault (List Char × List Char) :=
  if cs.takeWhile Char.isDigit = [] then .error (.ofRest cs)
  else .ok (cs.takeWhile Char.isDigit, cs.dropWhile Char.isDigit)

/-- Take the digits before the point off a text. -/
def whole (cs : List Char) : Except Fault (List Char × List Char) :=
  match digits cs with
  | .ok ('0' :: _ :: _, _) => .error .malformed
  | r => r

/-- Take a fraction off a text, if there is one. -/
def fraction : List Char → Except Fault (List Char × List Char)
  | '.' :: cs => digits cs
  | cs => .ok ([], cs)

/-- Take an exponent off a text, if there is one. -/
def exponent : List Char → Except Fault (Option Int × List Char)
  | [] => .ok (none, [])
  | c :: cs =>
    if c = 'e' ∨ c = 'E' then
      let (negative, cs) := Literal.sign cs
      match digits cs with
      | .ok (ds, rest) =>
        .ok (some (if negative then -(Literal.ofDigits ds : Int) else Literal.ofDigits ds), rest)
      | .error f => .error f
    else .ok (none, c :: cs)

/-- Take a minus sign off a text, if there is one. -/
def minus : List Char → Bool × List Char
  | '-' :: cs => (true, cs)
  | cs => (false, cs)

/-- Take a numeral off a text as it is written. -/
def spelled (cs : List Char) : Except Fault (Spelled × List Char) :=
  let (negative, cs) := minus cs
  match whole cs with
  | .error f => .error f
  | .ok (whole, cs) =>
    match fraction cs with
    | .error f => .error f
    | .ok (fraction, cs) =>
      match exponent cs with
      | .error f => .error f
      | .ok (exponent, cs) => .ok (⟨negative, whole, fraction, exponent⟩, cs)

/-- Take a numeral off a text. -/
def read (cs : List Char) : Except Fault (Numeral × List Char) :=
  match spelled cs with
  | .error f => .error f
  | .ok (s, rest) =>
    match ofSpelled? s with
    | some n => .ok (n, rest)
    | none => .error .malformed

/-! ### What is left is shorter -/

theorem length_digits_lt {cs ds rest : List Char} (h : digits cs = .ok (ds, rest)) :
    rest.length < cs.length := by
  unfold digits at h
  split at h
  · cases h
  · rename_i some
    cases h
    match cs with
    | [] => simp at some
    | c :: cs =>
      have digit : c.isDigit = true := by
        cases h : c.isDigit with
        | true => rfl
        | false => simp [h] at some
      have := (List.dropWhile_sublist (l := cs) Char.isDigit).length_le
      simp [digit]
      omega

theorem length_whole_lt {cs ds rest : List Char} (h : whole cs = .ok (ds, rest)) :
    rest.length < cs.length := by
  unfold whole at h
  split at h
  · cases h
  · exact length_digits_lt h

theorem length_fraction_le {cs ds rest : List Char} (h : fraction cs = .ok (ds, rest)) :
    rest.length ≤ cs.length := by
  unfold fraction at h
  split at h
  · have := length_digits_lt h
    simp
    omega
  · cases h
    exact Nat.le_refl _

theorem length_sign_le (cs : List Char) : (Literal.sign cs).2.length ≤ cs.length := by
  unfold Literal.sign
  split <;> simp

theorem length_exponent_le {cs rest : List Char} {e : Option Int}
    (h : exponent cs = .ok (e, rest)) : rest.length ≤ cs.length := by
  unfold exponent at h
  split at h
  · cases h
    exact Nat.le_refl _
  · rename_i c cs
    have signed := length_sign_le cs
    simp only at h
    split at h
    · split at h
      · rename_i read
        have := length_digits_lt read
        cases h
        simp
        omega
      · cases h
    · cases h
      exact Nat.le_refl _

theorem length_minus_le (cs : List Char) : (minus cs).2.length ≤ cs.length := by
  unfold minus
  split <;> simp

theorem length_spelled_lt {cs rest : List Char} {s : Spelled} (h : spelled cs = .ok (s, rest)) :
    rest.length < cs.length := by
  unfold spelled at h
  have signed := length_minus_le cs
  simp only at h
  split at h
  · cases h
  · rename_i first
    have first := length_whole_lt first
    split at h
    · cases h
    · rename_i second
      have second := length_fraction_le second
      split at h
      · cases h
      · rename_i third
        have third := length_exponent_le third
        cases h
        omega

theorem length_read_lt {cs rest : List Char} {n : Numeral} (h : read cs = .ok (n, rest)) :
    rest.length < cs.length := by
  unfold read at h
  split at h
  · cases h
  · rename_i written
    split at h
    · cases h
      exact length_spelled_lt written
    · cases h

end Numeral

end CallToAction.Json
