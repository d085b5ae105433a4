import CallToAction.Number.Spelling

/-!
# Thresholds

A threshold compares a measured value with a fixed number.  The comparison is that of doubles: no
number passes a threshold that is not a number, nor the other way round.
-/

namespace CallToAction

/-- A way to compare. -/
inductive Comparison
  | less
  | lessOrEqual
  | greater
  | greaterOrEqual
  | equal
  deriving DecidableEq, Repr

namespace Comparison

/-- The sign of a comparison. -/
def sign : Comparison → String
  | less => "<"
  | lessOrEqual => "<="
  | greater => ">"
  | greaterOrEqual => ">="
  | equal => "=="

/-- Every comparison. -/
def all : List Comparison := [less, lessOrEqual, greater, greaterOrEqual, equal]

/-- Whether `v` stands in this relation to `bound`. -/
def holds : Comparison → (v bound : Float) → Bool
  | less, v, bound => v < bound
  | lessOrEqual, v, bound => v ≤ bound
  | greater, v, bound => bound < v
  | greaterOrEqual, v, bound => bound ≤ v
  | equal, v, bound => v == bound

end Comparison

/-- A test of one value against a fixed number. -/
structure Threshold where
  comparison : Comparison
  bound : Float
  deriving DecidableEq

namespace Threshold

/-- Whether a value passes. -/
def admits (t : Threshold) (v : Float) : Bool := t.comparison.holds v t.bound

/-- A threshold as text. -/
def text (t : Threshold) : String := s!"{t.comparison.sign} {Number.text t.bound}"

end Threshold

end CallToAction
