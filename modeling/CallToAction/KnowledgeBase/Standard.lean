import CallToAction.KnowledgeBase.Basic

/-!
# The standard knowledge base

Sixteen rules on the design of a call to action: six on its visibility, six on its clickability,
and four that join observations of several kinds.
-/

namespace CallToAction

namespace Condition

/-- A fact is less than a bound. -/
def lessThan (key : Fact) (bound : Float) : Condition := .fact key ⟨.less, bound⟩

/-- A fact is greater than a bound. -/
def moreThan (key : Fact) (bound : Float) : Condition := .fact key ⟨.greater, bound⟩

/-- A fact is a bound or greater. -/
def atLeast (key : Fact) (bound : Float) : Condition := .fact key ⟨.greaterOrEqual, bound⟩

end Condition

namespace KnowledgeBase

open Condition

/-- The sixteen rules, in the order of their declaration. -/
def standard : KnowledgeBase where
  rules :=
    [ { id := "V1", priority := 10, certainty := 0.95, category := .visibility
        condition := all [moreThan .position 800, lessThan .scrollDepth 50]
        conclusion := "CTA is poorly placed: it sits below the fold and users do not reach it"
        explanation :=
          "57% of users never scroll 800 pixels deep. The CTA should sit within the first 600 " ++
            "pixels." },
      { id := "V2", priority := 9, certainty := 0.90, category := .visibility
        condition := lessThan .contrast 3
        conclusion := "CTA color contrast is very weak - it is hard to see"
        explanation := "A contrast ratio below 3:1 makes the CTA blend into the background." },
      { id := "V3", priority := 8, certainty := 0.85, category := .visibility
        condition := lessThan .whitespace 30
        conclusion := "Not enough whitespace around the CTA - it gets lost"
        explanation :=
          "Less than 40 pixels of whitespace lets the CTA disappear among the surrounding " ++
            "elements." },
      { id := "V4", priority := 7, certainty := 0.80, category := .visibility
        condition := moreThan .ctaCount 1
        conclusion := "Several CTAs compete and confuse the user"
        explanation :=
          "Studies show that offering more than one CTA cuts conversion by 26%." },
      { id := "V5", priority := 6, certainty := 0.75, category := .visibility
        condition := is (.colorUniqueness .similar)
        conclusion := "CTA color matches other elements - it does not stand out"
        explanation := "The CTA should use a color that no other element on the page shares." },
      { id := "V6", priority := 5, certainty := 0.70, category := .visibility
        condition := is (.visualHierarchy .weak)
        conclusion := "Weak visual hierarchy - the CTA is not prominent"
        explanation :=
          "The CTA should be the largest and most prominent clickable element on the page." },
      { id := "C1", priority := 10, certainty := 0.95, category := .clickability
        condition := any [lessThan .width 180, lessThan .height 44]
        conclusion := "CTA is too small - it is hard to click"
        explanation := "Recommended minimum CTA size is 200x50 pixels (48x48 on mobile)." },
      { id := "C2", priority := 9, certainty := 0.90, category := .clickability
        condition := moreThan .textLength 25
        conclusion := "CTA text is too long"
        explanation :=
          "CTA text should be two or three words at most. Lead with a short imperative verb." },
      { id := "C3", priority := 8, certainty := 0.85, category := .clickability
        condition := is (.textClarity .poor)
        conclusion := "CTA text is neither clear nor motivating"
        explanation :=
          "Prefer value-driven phrases such as 'Start free' over generic ones such as " ++
            "'Sign up'." },
      { id := "C4", priority := 7, certainty := 0.80, category := .clickability
        condition := moreThan .elementsBefore 5
        conclusion := "Too many clickable elements appear before the CTA"
        explanation :=
          "Every extra clickable element lowers the chance of a CTA click by 8%." },
      { id := "C5", priority := 6, certainty := 0.75, category := .clickability
        condition := is (.mobileFriendly false)
        conclusion := "CTA is not optimized for mobile"
        explanation := "60% of traffic is mobile. The mobile CTA must be at least 48x48 pixels." },
      { id := "C6", priority := 5, certainty := 0.70, category := .clickability
        condition := is (.loadingFeedback false)
        conclusion := "No visual feedback after the click"
        explanation :=
          "Users should see immediate feedback (a loading state or color change) once they " ++
            "click." },
      { id := "M1", priority := 9, certainty := 0.88, category := .visibility
        condition := all [moreThan .timeToCta 12, is (.contentLength .long)]
        conclusion := "It takes too long to reach the CTA"
        explanation :=
          "Users decide within the first 8-10 seconds. Trim the content above the CTA." },
      { id := "M2", priority := 8, certainty := 0.82, category := .clickability
        condition := all [lessThan .clickRate 2, lessThan .contrast 4]
        conclusion := "Low click rate caused by weak contrast"
        explanation := "Raising contrast to 4.5:1 can lift conversion by up to 35%." },
      { id := "M3", priority := 7, certainty := 0.78, category := .visibility
        condition := all [moreThan .scrollDepth 70, lessThan .position 500]
        conclusion := "CTA position is optimal - users reach it"
        explanation :=
          "A CTA within the first 500 pixels combined with deep scrolling signals a good " ++
            "layout." },
      { id := "M4", priority := 6, certainty := 0.75, category := .clickability
        condition := all [moreThan .clickRate 5, atLeast .width 200]
        conclusion := "CTA size is appropriate - the click rate is good"
        explanation := "A well-sized CTA has produced a higher click rate." } ]

end KnowledgeBase

end CallToAction
