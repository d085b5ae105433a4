import CallToAction.Rule.Condition

/-!
# Rules

A rule is a weighted heuristic: when its condition holds of a page, its conclusion is a finding
about the page, held with the certainty of the rule.  A rule whose condition cannot be evaluated
has failed, which is not the same as not holding.
-/

namespace CallToAction

/-- The score that a rule speaks to. -/
inductive Category
  | visibility
  | clickability
  deriving DecidableEq, Repr

/-- The word for a category. -/
def Category.text : Category → String
  | visibility => "visibility"
  | clickability => "clickability"

/-- A weighted heuristic. -/
structure Rule where
  id : String
  /-- Findings of a higher priority are reported first. -/
  priority : Int
  /-- How certain the conclusion is, from 0 to 1. -/
  certainty : Float
  condition : Condition
  conclusion : String
  explanation : String
  category : Category

/-- What became of a rule on one page. -/
inductive Outcome
  | activated
  | notActivated
  | failed (error : EvaluationError)
  deriving DecidableEq

/-- Evaluate a rule on a page. -/
def Rule.outcome (rule : Rule) (page : Page) : Outcome :=
  match rule.condition.evaluate page with
  | .ok true => .activated
  | .ok false => .notActivated
  | .error e => .failed e

end CallToAction
