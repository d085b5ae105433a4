import CallToAction.Evaluation
import CallToAction.Summary
import CallToAction.Text.Layout

/-!
# The reasoning trace

The trace tells a reader how an analysis came to its result.  It has six sections in a fixed
order: the facts put in, the labels derived from them, the activated rules, the results, their
grades, and the recommendations.  Nothing is computed here; every number comes from the evaluation
as it is.
-/

namespace CallToAction

/-- What a fact is called in a trace. -/
def Fact.caption : Fact → String
  | position => "CTA position"
  | width => "CTA width"
  | height => "CTA height"
  | contrast => "Contrast ratio"
  | whitespace => "Whitespace around CTA"
  | scrollDepth => "Scroll depth"
  | clickRate => "Click rate"
  | ctaCount => "Number of CTAs"
  | textLength => "CTA text length"
  | timeToCta => "Time to CTA"
  | elementsBefore => "Clickable elements before CTA"
  | wordCount => "Content word count"
  | similarColors => "Similar-color elements"
  | largestOther => "Largest other element"
  | mobileWidth => "Mobile CTA width"
  | mobileHeight => "Mobile CTA height"
  | loadingAnimation => "Loading animation"

/-- The unit written behind the value of a fact. -/
def Fact.unit : Fact → String
  | position | width | height | whitespace | mobileWidth | mobileHeight => " px"
  | contrast => ":1"
  | scrollDepth | clickRate => "%"
  | textLength => " chars"
  | timeToCta => " s"
  | largestOther => " px²"
  | ctaCount | elementsBefore | wordCount | similarColors | loadingAnimation => ""

/-- What a label is about, as a caption. -/
def Label.caption : Label → String
  | contentLength _ => "Content length"
  | textClarity _ => "CTA text clarity"
  | colorUniqueness _ => "CTA color uniqueness"
  | visualHierarchy _ => "Visual hierarchy"
  | mobileFriendly _ => "Mobile friendly"
  | loadingFeedback _ => "Loading feedback"

/-- A certainty in percent, without decimals. -/
def percentage (certainty : Float) : String := Number.fixed 0 (certainty * 100) ++ "%"

namespace Reasoning

/-- The line between parts of a trace. -/
def divider : String := "=================================================="

/-- The facts put in. -/
def factLines (facts : FactSheet) : List String :=
  Fact.all.map fun fact =>
    match facts.get fact with
    | some v => s!"  - {fact.caption}: {Number.text v}{fact.unit}"
    | none => s!"  - {fact.caption}: N/A"

/-- The labels derived from the facts. -/
def labelLines (labels : Labels) : List String :=
  labels.toList.map fun label => s!"  - {label.caption}: {label.value}"

/-- The block of an activated rule, numbered from one. -/
def ruleLines (number : Nat) (r : Rule) : List String :=
  let weight := s!"(priority: {Int.repr r.priority}, certainty: {Number.text r.certainty})"
  [s!"{Nat.repr number}. Rule {r.id} {weight}",
    s!"   Category: {r.category.text}",
    s!"   -> {r.conclusion}",
    s!"   Why: {r.explanation}",
    ""]

/-- The activated rules. -/
def activatedLines (rules : List Rule) : List String :=
  if rules.isEmpty then ["   No serious issues detected.", ""]
  else (rules.zipIdx 1).flatMap fun (r, number) => ruleLines number r

/-- The scores and the certainty. -/
def resultLines (e : Evaluation) : List String :=
  [s!"  - Visibility score: {Nat.repr e.visibility.score}/100",
    s!"  - Clickability score: {Nat.repr e.clickability.score}/100",
    s!"  - Overall certainty (CF): {percentage e.certainty}"]

/-- The grades of the scores. -/
def assessmentLines (e : Evaluation) : List String :=
  [s!"  - CTA visibility: {(Grade.ofScore (Float.ofNat e.visibility.score)).text}",
    s!"  - CTA clickability: {(Grade.ofScore (Float.ofNat e.clickability.score)).text}"]

/-- The recommendations, numbered from one. -/
def recommendationLines (recommendations : List String) : List String :=
  if recommendations.isEmpty then ["The design looks great. No immediate improvements needed."]
  else (recommendations.zipIdx 1).map fun (s, number) => s!"{Nat.repr number}. {s}"

/-- The lines of a trace. -/
def lines (facts : FactSheet) (e : Evaluation) : List String :=
  ["Reasoning trace", divider, "", "Input facts (quantitative):"] ++ factLines facts
    ++ ["", "Derived facts (qualitative):"] ++ labelLines e.labels
    ++ ["", "Activated rules (by priority):", ""] ++ activatedLines e.activated
    ++ [divider, "Results:", ""] ++ resultLines e
    ++ ["", "Assessment:"] ++ assessmentLines e
    ++ ["", divider, "Prioritized recommendations:", ""] ++ recommendationLines e.recommendations

/-- The trace of an evaluation; every line ends with a line break. -/
def trace (facts : FactSheet) (e : Evaluation) : String :=
  Text.joinWith "" ((lines facts e).map (· ++ "\n"))

end Reasoning

end CallToAction
