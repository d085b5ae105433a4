import CallToAction.Reasoning

/-!
# Reports

A report is the full result of analyzing one page, and a digest is its short form, with the first
three recommendations.  How the scores came about, and which rules could not be evaluated, is kept
as diagnostics: it is shown on request and is no part of the report as a document.
-/

namespace CallToAction

/-- An activated rule as it is reported. -/
structure Finding where
  ruleId : String
  priority : Int
  certainty : Float
  conclusion : String
  explanation : String
  category : Category

/-- The finding of an activated rule. -/
def Rule.finding (r : Rule) : Finding where
  ruleId := r.id
  priority := r.priority
  certainty := r.certainty
  conclusion := r.conclusion
  explanation := r.explanation
  category := r.category

/-- How the scores came about, and the rules that could not be evaluated with the reasons. -/
structure Diagnostics where
  visibility : Breakdown
  clickability : Breakdown
  failed : List (String × String)
  deriving DecidableEq

/-- The full result of analyzing one page. -/
structure Report where
  visibility : Nat
  clickability : Nat
  certainty : Float
  findings : List Finding
  recommendations : List String
  labels : Labels
  reasoning : String
  summary : Summary
  diagnostics : Diagnostics

/-- The short form of a report. -/
structure Digest where
  visibility : Nat
  clickability : Nat
  certainty : Float
  recommendations : List String
  summary : Summary

/-- How many recommendations a digest keeps. -/
def Digest.maxRecommendations : Nat := 3

/-- The short form of a report. -/
def Report.digest (r : Report) : Digest where
  visibility := r.visibility
  clickability := r.clickability
  certainty := r.certainty
  recommendations := r.recommendations.take Digest.maxRecommendations
  summary := r.summary

/-- The report of an evaluation. -/
def Report.ofEvaluation (facts : FactSheet) (e : Evaluation) : Report where
  visibility := e.visibility.score
  clickability := e.clickability.score
  certainty := e.certainty
  findings := e.activated.map Rule.finding
  recommendations := e.recommendations
  labels := e.labels
  reasoning := Reasoning.trace facts e
  summary := .ofScores e.visibility.score e.clickability.score e.certainty
  diagnostics :=
    { visibility := e.visibility
      clickability := e.clickability
      failed := e.failed.map fun (r, error) => (r.id, error.message) }

/-- Analyze a page. -/
def KnowledgeBase.analyze (kb : KnowledgeBase) (facts : FactSheet) : Report :=
  .ofEvaluation facts (kb.evaluate facts)

end CallToAction
