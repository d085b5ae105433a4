import CallToAction.Certainty
import CallToAction.KnowledgeBase.Basic
import CallToAction.Score

/-!
# Evaluation

To evaluate a page is to try every rule of a knowledge base on it.  Rules that hold are activated,
and stand in the order of falling priority, those of equal priority in the order of declaration.
Rules that cannot be evaluated have failed; they stand in the order of declaration and count as not
activated.
-/

namespace CallToAction

/-- What a knowledge base finds on a page. -/
structure Evaluation where
  /-- By falling priority, ties in the order of declaration. -/
  activated : List Rule
  /-- In the order of declaration. -/
  failed : List (Rule × EvaluationError)
  visibility : Breakdown
  clickability : Breakdown
  labels : Labels

namespace Evaluation

/-- How many findings are turned into recommendations. -/
def maxRecommendations : Nat := 5

/-- The joint certainty of the findings. -/
def certainty (e : Evaluation) : Float := Certainty.combineAll (e.activated.map (·.certainty))

/-- The conclusions of the first findings. -/
def recommendations (e : Evaluation) : List String :=
  (e.activated.take maxRecommendations).map (·.conclusion)

end Evaluation

/-- Whether a rule is reported no later than another one. -/
def Rule.precedes (a b : Rule) : Bool := b.priority ≤ a.priority

/-- The error of a rule that cannot be evaluated. -/
def Rule.error? (r : Rule) (page : Page) : Option EvaluationError :=
  match r.outcome page with
  | .failed e => some e
  | _ => none

/-- Try every rule on a page. -/
def KnowledgeBase.evaluate (kb : KnowledgeBase) (facts : FactSheet) : Evaluation :=
  let page := Page.ofFacts facts
  { activated := (kb.rules.filter fun r => r.outcome page = .activated).mergeSort Rule.precedes
    failed := kb.rules.filterMap fun r => (r.error? page).map (r, ·)
    visibility := Score.visibility facts
    clickability := Score.clickability facts
    labels := page.labels }

end CallToAction
