import CallToAction.Number.Shortest

/-!
# Written numbers

A double is written in one of three ways.

* `Number.text`: the shortest digits that read back, always positionally, as in `900`, `0.1`
  and `-0`; this is the form of messages, conditions and traces.
* `Number.json?`: the shortest digits as a document number, with a point or an exponent in every
  number; a value that is not finite has no such form.
* `Number.fixed`: a fixed number of decimal places, a tie going to the even last digit.

The first two differ only in their `Spelling`.
-/

namespace CallToAction

/-- How shortest digits are laid out. -/
structure Spelling where
  /-- The leading exponents that are written without an exponent mark. -/
  positional : Int → Bool
  /-- What follows a whole number that is written positionally. -/
  whole : List Char
  /-- Which of two shortest decimals is taken when both are equally close. -/
  tie : Tie

namespace Spelling

/-- Digits with a decimal point at their place. -/
def positionally (s : Spelling) (d : Decimal) : List Char :=
  let digits := d.text
  let places : Int := d.exponent + digits.length
  if 0 ≤ d.exponent then digits ++ List.replicate d.exponent.toNat '0' ++ s.whole
  else if places ≤ 0 then '0' :: '.' :: (List.replicate (-places).toNat '0' ++ digits)
  else digits.take places.toNat ++ '.' :: digits.drop places.toNat

/-- One digit before the point and a signed exponent. -/
def scientifically (d : Decimal) : List Char :=
  let fraction := d.text.drop 1
  let exponent := d.leading
  d.text.take 1 ++ (if fraction.isEmpty then [] else '.' :: fraction)
    ++ ['e', if exponent < 0 then '-' else '+'] ++ Nat.toDigits 10 exponent.natAbs

/-- A decimal without its sign. -/
def unsigned (s : Spelling) (d : Decimal) : List Char :=
  if s.positional d.leading then s.positionally d else scientifically d

/-- The digits written for `mantissa * 2 ^ exponent`. -/
def magnitude (s : Spelling) (mantissa : Nat) (exponent : Int) : List Char :=
  if mantissa = 0 then s.unsigned ⟨0, 0⟩
  else s.unsigned ((Band.ofParts mantissa exponent).shortest s.tie)

/-- Every number positionally, and whole numbers without a point. -/
def plain : Spelling where
  positional _ := true
  whole := []
  tie := .up

/-- Leading exponents from -5 to 15 positionally, and whole numbers with one decimal. -/
def document : Spelling where
  positional e := -5 ≤ e ∧ e ≤ 15
  whole := ['.', '0']
  tie := .even

end Spelling

namespace Number

/-- A magnitude behind its sign; negative zero keeps its sign. -/
def signed (negative : Bool) (magnitude : List Char) : String :=
  .ofList (if negative then '-' :: magnitude else magnitude)

/-- The shortest digits that read back, written positionally. -/
def text (x : Float) : String :=
  match Binary64.ofFloat x with
  | .nan => "NaN"
  | .infinity negative => signed negative ['i', 'n', 'f']
  | .finite negative m e => signed negative (Spelling.plain.magnitude m e)

/-- The shortest digits that read back, as a document number. -/
def json? (x : Float) : Option String :=
  match Binary64.ofFloat x with
  | .finite negative m e => some (signed negative (Spelling.document.magnitude m e))
  | _ => none

/-- The whole number nearest to `10 ^ places * (mantissa * 2 ^ exponent)`. -/
def scaled (places mantissa : Nat) (exponent : Int) : Nat :=
  roundDiv (mantissa * tenTo places * twoTo exponent.toNat) (twoTo (-exponent).toNat)

/-- A whole number of units of `10 ^ -places`, written with a point. -/
def pointed (places n : Nat) : List Char :=
  let whole := Nat.toDigits 10 (n / tenTo places)
  let fraction := Nat.toDigits 10 (n % tenTo places)
  if places = 0 then whole
  else whole ++ '.' :: (List.replicate (places - fraction.length) '0' ++ fraction)

/-- The nearest decimal with the given number of places. -/
def fixed (places : Nat) (x : Float) : String :=
  match Binary64.ofFloat x with
  | .nan => "NaN"
  | .infinity negative => signed negative ['i', 'n', 'f']
  | .finite negative m e => signed negative (pointed places (scaled places m e))

end Number

end CallToAction
