import CallToAction.FactSheet.Basic
import CallToAction.Number.Spelling

/-!
# Valid facts

A measured value must be a finite number that is not negative; some facts have a range of their
own.  `FactSheet.violations` reports every offending value of a sheet, at most one violation per
fact, in document order.  A fact without a value never offends.
-/

namespace CallToAction

/-- What is wrong with the value of a fact. -/
inductive Violation
  | notFinite
  | negative (value : Float)
  /-- A contrast ratio outside of 1 to 21. -/
  | contrastRange (value : Float)
  /-- A percentage above 100. -/
  | abovePercentage (value : Float)
  /-- A flag that is neither 0 nor 1. -/
  | notFlag (value : Float)
  deriving DecidableEq

/-- The wording of a violation. -/
def Violation.message : Violation → String
  | notFinite => "must be a finite number"
  | negative v => s!"must be non-negative (got {Number.text v})"
  | contrastRange v => s!"must be between 1 and 21 (got {Number.text v})"
  | abovePercentage v => s!"is a percentage, must be at most 100 (got {Number.text v})"
  | notFlag v => s!"must be 0 or 1 (got {Number.text v})"

/-- The range of a fact, for values that are finite and not negative. -/
def Fact.rangeViolation? : Fact → Float → Option Violation
  | .contrast, v => if 1 ≤ v ∧ v ≤ 21 then none else some (.contrastRange v)
  | .scrollDepth, v | .clickRate, v => if 100 < v then some (.abovePercentage v) else none
  | .loadingAnimation, v => if v == 0 || v == 1 then none else some (.notFlag v)
  | _, _ => none

/-- What is wrong with a value of a fact, if anything. -/
def Fact.violation? (fact : Fact) (v : Float) : Option Violation :=
  if !v.isFinite then some .notFinite
  else if v < 0 then some (.negative v)
  else fact.rangeViolation? v

namespace FactSheet

/-- The offending facts of a sheet, in document order. -/
def violations (s : FactSheet) : List (Fact × Violation) :=
  s.present.filterMap fun (fact, v) => (fact.violation? v).map (fact, ·)

/-- One line per offending fact; a scope such as `defaults` stands before the name of the fact. -/
def complaints (scope : String) (s : FactSheet) : List String :=
  s.violations.map fun (fact, violation) =>
    let field := if scope.isEmpty then fact.name else s!"{scope}.{fact.name}"
    s!"{field}: {violation.message}"

end FactSheet

end CallToAction
