import CallToAction.Number.Spelling

/-!
# The summary of an analysis

A score reads as one of four grades, a certainty as one of four levels.  `Summary.ofScores` grades
both scores and their average.
-/

namespace CallToAction

/-- A qualitative reading of a score from 0 to 100. -/
inductive Grade
  | weak
  | medium
  | good
  | excellent
  deriving DecidableEq, Repr

namespace Grade

/-- The grade of a score. -/
def ofScore (score : Float) : Grade :=
  if 85 ≤ score then excellent
  else if 70 ≤ score then good
  else if 50 ≤ score then medium
  else weak

/-- The word for a grade. -/
def text : Grade → String
  | weak => "weak"
  | medium => "medium"
  | good => "good"
  | excellent => "excellent"

/-- What a grade says of a design as a whole. -/
def advice : Grade → String
  | excellent => "Excellent - the design is well optimized"
  | good => "Good - minor improvements needed"
  | medium => "Medium - needs improvement"
  | weak => "Weak - a redesign is recommended"

end Grade

/-- A qualitative reading of a certainty. -/
inductive CertaintyLevel
  | veryHigh
  | high
  | medium
  | low
  deriving DecidableEq, Repr

namespace CertaintyLevel

/-- The level of a certainty. -/
def ofCertainty (c : Float) : CertaintyLevel :=
  if 0.9 ≤ c then veryHigh
  else if 0.8 ≤ c then high
  else if 0.6 ≤ c then medium
  else low

/-- The word for a level. -/
def text : CertaintyLevel → String
  | veryHigh => "very_high"
  | high => "high"
  | medium => "medium"
  | low => "low"

end CertaintyLevel

/-- Both scores, their average and the certainty, read qualitatively. -/
structure Summary where
  visibility : Grade
  clickability : Grade
  certainty : CertaintyLevel
  /-- What is said of the design as a whole. -/
  overall : String
  /-- The grade of the average score. -/
  grade : Grade
  /-- The average score with one decimal. -/
  average : String
  deriving DecidableEq, Repr

/-- The summary of two scores and a certainty. -/
def Summary.ofScores (visibility clickability : Nat) (certainty : Float) : Summary :=
  let average := Float.ofNat (visibility + clickability) / 2
  { visibility := .ofScore (.ofNat visibility)
    clickability := .ofScore (.ofNat clickability)
    certainty := .ofCertainty certainty
    overall := (Grade.ofScore average).advice
    grade := .ofScore average
    average := Number.fixed 1 average }

end CallToAction
