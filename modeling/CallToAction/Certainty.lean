import CallToAction.Number.Spelling

/-!
# Certainty factors

A certainty factor lies between -1, certainly not, and 1, certainly.  `Certainty.combine` joins two
pieces of evidence: factors of one sign reinforce each other, factors of opposite signs cancel.

The arithmetic is written for any number type, so that the definitions which run on doubles are
the ones that can be studied on exact fractions.  `Certainty.lesser` agrees with the minimum on
numbers that are ordered; of a number and what is not a number it takes the number.
-/

namespace CallToAction

/-- Number types with a rounding to hundredths. -/
class Hundredths (α : Type) where
  /-- The nearest hundredth; a tie goes to the even one. -/
  round2 : α → α

/-- The double nearest to the nearest hundredth of a finite double; other doubles stay as they
are. -/
def Number.round2 (x : Float) : Float :=
  match Binary64.ofFloat x with
  | .finite negative m e => Binary64.nearest negative (Number.scaled 2 m e) 100
  | _ => x

instance : Hundredths Float := ⟨Number.round2⟩

namespace Certainty

variable {α : Type} [OfNat α 0] [OfNat α 1] [Add α] [Sub α] [Mul α] [Div α]
  [LE α] [LT α] [DecidableLE α] [DecidableLT α]

/-- The distance of a factor from zero. -/
def strength (c : α) : α := if c < 0 then 0 - c else c

/-- The lesser of two strengths. -/
def lesser (a b : α) : α := if a ≤ b then a else if b ≤ b then b else a

/-- Join two factors.  Evidence of full strength for and against is a total conflict, which is no
evidence at all. -/
def combine (a b : α) : α :=
  if 0 ≤ a ∧ 0 ≤ b then a + b * (1 - a)
  else if a < 0 ∧ b < 0 then a + b * (1 + a)
  else if 1 - lesser (strength a) (strength b) ≤ 0 then 0
  else (a + b) / (1 - lesser (strength a) (strength b))

/-- The factor reported when there is no evidence either way. -/
def noEvidence : α := 1 / (1 + 1)

/-- Join all factors from first to last, and round to hundredths. -/
def combineAll [Hundredths α] : List α → α
  | [] => noEvidence
  | c :: cs => Hundredths.round2 (cs.foldl combine c)

end Certainty

end CallToAction
