import CallToAction.Number.Binary64

/-!
# Number literals

`Number.read` reads the literals a user types: an optional sign, then digits with at most one
point and an optional exponent, or a name of infinity or of no number in any letter case.  The
value is the double nearest to the literal; nothing is out of range, since large values are
infinite.  Blanks, digit separators and other radixes are refused.

A literal is first taken apart (`Literal.ofText?`) and then valued (`Literal.toFloat`).
-/

namespace CallToAction

/-- A number as written. -/
inductive Literal
  | nan
  | infinity (negative : Bool)
  | decimal (negative : Bool) (digits : Nat) (exponent : Int)
  deriving DecidableEq, Repr

namespace Literal

/-- The number spelled by decimal digits, most significant first. -/
def ofDigits (cs : List Char) : Nat :=
  cs.foldl (fun n c => 10 * n + (c.toNat - '0'.toNat)) 0

/-- A leading sign and what follows it. -/
def sign : List Char → Bool × List Char
  | '-' :: cs => (true, cs)
  | '+' :: cs => (false, cs)
  | cs => (false, cs)

/-- The digits after the point, if there is a point, and what follows them. -/
def fraction : List Char → List Char × List Char
  | '.' :: cs => cs.span Char.isDigit
  | cs => ([], cs)

/-- The value of an exponent, which ends the literal. -/
def exponent? : List Char → Option Int
  | [] => some 0
  | c :: cs =>
    let (negative, digits) := sign cs
    if (c = 'e' ∨ c = 'E') ∧ digits ≠ [] ∧ digits.all Char.isDigit then
      some (if negative then -(ofDigits digits : Int) else ofDigits digits)
    else none

/-- A literal made of digits. -/
def decimal? (negative : Bool) (cs : List Char) : Option Literal := do
  let (whole, cs) := cs.span Char.isDigit
  let (part, cs) := fraction cs
  let exponent ← exponent? cs
  guard (whole ++ part ≠ [])
  pure (.decimal negative (ofDigits (whole ++ part)) (exponent - part.length))

/-- The names of infinity and of no number, in lower case. -/
def named? (negative : Bool) (cs : List Char) : Option Literal :=
  let name := String.ofList (cs.map Char.toLower)
  if name = "nan" then some .nan
  else if name = "inf" ∨ name = "infinity" then some (.infinity negative)
  else none

/-- The literal that a text spells. -/
def ofText? (s : String) : Option Literal :=
  let (negative, cs) := sign s.toList
  decimal? negative cs <|> named? negative cs

/-- The double nearest to a literal. -/
def toFloat : Literal → Float
  | .nan => 0.0 / 0.0
  | .infinity negative => Binary64.infinite negative
  | .decimal negative digits exponent => Binary64.ofDecimal negative digits exponent

end Literal

namespace Number

/-- Why a text is not a number. -/
inductive ReadError
  | empty
  | invalid
  deriving DecidableEq, Repr

/-- The wording of a `ReadError`. -/
def ReadError.message : ReadError → String
  | .empty => "cannot parse float from empty string"
  | .invalid => "invalid float literal"

/-- The double nearest to the literal that a text spells. -/
def read (s : String) : Except ReadError Float :=
  match Literal.ofText? s with
  | some l => .ok l.toFloat
  | none => .error (if s.isEmpty then .empty else .invalid)

end Number

end CallToAction
