import CallToAction.Label
import CallToAction.Rule.Threshold
import CallToAction.Text.Layout

/-!
# Conditions

A condition is a tree of tests, joined by "all of" and "any of".  It is evaluated from left to
right and stops as soon as its outcome is decided, so a fact that is missing or not finite makes
the evaluation fail only where it is reached.

* `evaluateAll_cons`, `evaluateAny_cons`: how the first part decides;
* `Condition.text`: the condition as written in rule listings.
-/

namespace CallToAction

/-- The facts of a page together with the labels derived from them. -/
structure Page where
  facts : FactSheet
  labels : Labels

/-- A page as seen through its facts. -/
def Page.ofFacts (facts : FactSheet) : Page := ⟨facts, Labels.ofFacts facts⟩

/-- A test on a page. -/
inductive Condition
  /-- A fact passes a threshold. -/
  | fact (fact : Fact) (threshold : Threshold)
  /-- A label was found. -/
  | is (label : Label)
  /-- Every part holds. -/
  | all (parts : List Condition)
  /-- Some part holds. -/
  | any (parts : List Condition)

/-- Why a condition has no outcome. -/
inductive EvaluationError
  | missing (fact : Fact)
  | notFinite (fact : Fact) (value : Float)
  deriving DecidableEq

/-- The wording of an error. -/
def EvaluationError.message : EvaluationError → String
  | missing fact => s!"fact '{fact.name}' is missing"
  | notFinite fact v => s!"fact '{fact.name}' is not a finite number ({Number.text v})"

/-- The finite value of a fact. -/
def FactSheet.finite (s : FactSheet) (fact : Fact) : Except EvaluationError Float :=
  match s.get fact with
  | none => .error (.missing fact)
  | some v => if v.isFinite then .ok v else .error (.notFinite fact v)

namespace Condition

mutual

/-- Whether a condition holds of a page. -/
def evaluate (page : Page) : Condition → Except EvaluationError Bool
  | fact key threshold => (page.facts.finite key).map threshold.admits
  | is label => .ok (page.labels.has label)
  | all parts => evaluateAll page parts
  | any parts => evaluateAny page parts

/-- Whether every part holds; the first part that does not settles it. -/
def evaluateAll (page : Page) : List Condition → Except EvaluationError Bool
  | [] => .ok true
  | part :: rest =>
    match evaluate page part with
    | .ok true => evaluateAll page rest
    | outcome => outcome

/-- Whether some part holds; the first part that does settles it. -/
def evaluateAny (page : Page) : List Condition → Except EvaluationError Bool
  | [] => .ok false
  | part :: rest =>
    match evaluate page part with
    | .ok false => evaluateAny page rest
    | outcome => outcome

end

/-- Whether a condition is written in parentheses inside another one. -/
def isCompound : Condition → Bool
  | all _ | any _ => true
  | _ => false

mutual

/-- A condition as text. -/
def text : Condition → String
  | fact key threshold => s!"{key.name} {threshold.text}"
  | is label => label.text
  | all parts => Text.joinWith " AND " (partTexts parts)
  | any parts => Text.joinWith " OR " (partTexts parts)

/-- The parts of a condition as text, compound ones in parentheses. -/
def partTexts : List Condition → List String
  | [] => []
  | part :: rest => (if part.isCompound then s!"({text part})" else text part) :: partTexts rest

end

section Evaluation

variable (page : Page)

@[simp] theorem evaluate_all (parts : List Condition) :
    (all parts).evaluate page = evaluateAll page parts := by simp [evaluate]

@[simp] theorem evaluate_any (parts : List Condition) :
    (any parts).evaluate page = evaluateAny page parts := by simp [evaluate]

@[simp] theorem evaluate_is (label : Label) :
    (is label).evaluate page = .ok (page.labels.has label) := by simp [evaluate]

@[simp] theorem evaluateAll_nil : evaluateAll page [] = .ok true := by simp [evaluateAll]

@[simp] theorem evaluateAny_nil : evaluateAny page [] = .ok false := by simp [evaluateAny]

theorem evaluateAll_cons (part : Condition) (rest : List Condition) :
    evaluateAll page (part :: rest) =
      match part.evaluate page with
      | .ok true => evaluateAll page rest
      | outcome => outcome := by
  rw [evaluateAll]

theorem evaluateAny_cons (part : Condition) (rest : List Condition) :
    evaluateAny page (part :: rest) =
      match part.evaluate page with
      | .ok false => evaluateAny page rest
      | outcome => outcome := by
  rw [evaluateAny]

end Evaluation

end Condition

end CallToAction
