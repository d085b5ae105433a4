import CallToAction.FactSheet.Basic
import CallToAction.Rule.Threshold

/-!
# Scores

A page is scored twice, for how easily its call to action is seen and for how easily it is clicked.
Each score starts at 100.  Every factor adds at most one adjustment, that of its first tier which
admits the measured values; the sum is then held within 0 and 100.

An absent fact, or one that is not finite, takes its input default.

* `Breakdown.ofAdjustments_raw`: the raw score is 100 plus the adjustments.
-/

namespace CallToAction

/-- What a score depends on. -/
inductive Factor
  | position
  | contrast
  | whitespace
  | ctaCount
  | color
  | size
  | textLength
  | distractions
  | mobile
  | feedback
  deriving DecidableEq, Repr

/-- The heading of a factor. -/
def Factor.name : Factor → String
  | position => "Position"
  | contrast => "Contrast"
  | whitespace => "Whitespace"
  | ctaCount => "CTA count"
  | color => "Color"
  | size => "Size"
  | textLength => "Text length"
  | distractions => "Distractions"
  | mobile => "Mobile"
  | feedback => "Feedback"

/-- A deduction or a bonus. -/
structure Adjustment where
  factor : String
  detail : String
  delta : Int
  deriving DecidableEq, Repr

/-- What adjustments come to. -/
def Adjustment.total : List Adjustment → Int
  | [] => 0
  | a :: as => a.delta + total as

/-- How a score was reached. -/
structure Breakdown where
  /-- The sum of the adjustments and 100. -/
  raw : Int
  /-- The raw score, held within 0 and 100. -/
  score : Nat
  adjustments : List Adjustment
  deriving DecidableEq, Repr

/-- The score that a list of adjustments leads to. -/
def Breakdown.ofAdjustments (adjustments : List Adjustment) : Breakdown :=
  let raw := 100 + Adjustment.total adjustments
  { raw, score := min raw.toNat 100, adjustments }

@[simp] theorem Breakdown.ofAdjustments_raw (as : List Adjustment) :
    (ofAdjustments as).raw = 100 + Adjustment.total as := rfl

@[simp] theorem Breakdown.ofAdjustments_adjustments (as : List Adjustment) :
    (ofAdjustments as).adjustments = as := rfl

/-- A range of values of one fact and the adjustment it earns. -/
structure Tier where
  admits : Float → Bool
  note : String
  delta : Int

namespace Tier

/-- The values that pass a threshold. -/
def threshold (comparison : Comparison) (bound : Float) (delta : Int) : Tier :=
  ⟨(⟨comparison, bound⟩ : Threshold).admits, (⟨comparison, bound⟩ : Threshold).text, delta⟩

/-- The values that are greater than a bound. -/
def above : Float → Int → Tier := threshold .greater

/-- The values that are less than a bound. -/
def below : Float → Int → Tier := threshold .less

/-- The values that are a bound or less. -/
def atMost : Float → Int → Tier := threshold .lessOrEqual

/-- The values that are a bound or greater. -/
def atLeast : Float → Int → Tier := threshold .greaterOrEqual

end Tier

namespace Score

/-- The adjustment of the first tier that admits the value of a fact. -/
def tiered (factor : Factor) (fact : Fact) (tiers : List Tier) (s : FactSheet) :
    Option Adjustment :=
  let v := s.getOrInitial fact
  (tiers.find? fun tier => tier.admits v).map fun tier =>
    ⟨factor.name, s!"{fact.name} {Number.text v} {tier.note}", tier.delta⟩

/-- How far down the page the call to action sits. -/
def position : FactSheet → Option Adjustment :=
  tiered .position .position [.above 800 (-30), .above 600 (-15), .atMost 400 5]

/-- How well it stands out from its background. -/
def contrast : FactSheet → Option Adjustment :=
  tiered .contrast .contrast [.below 3 (-25), .below 4.5 (-10), .atLeast 7 5]

/-- How much room there is around it. -/
def whitespace : FactSheet → Option Adjustment :=
  tiered .whitespace .whitespace [.below 30 (-20), .below 40 (-10)]

/-- How many calls to action compete. -/
def ctaCount : FactSheet → Option Adjustment :=
  tiered .ctaCount .ctaCount [.above 2 (-15), .above 1 (-8)]

/-- How many other elements share its color. -/
def color : FactSheet → Option Adjustment :=
  tiered .color .similarColors [.above 2 (-10), .above 0 (-5)]

/-- How large it is. -/
def size (s : FactSheet) : Option Adjustment :=
  let w := s.getOrInitial .width
  let h := s.getOrInitial .height
  let adjust (note : String) (delta : Int) : Option Adjustment :=
    some ⟨Factor.size.name, s!"{Number.text w}x{Number.text h} {note}", delta⟩
  if w < 180 ∨ h < 44 then adjust "below 180x44" (-30)
  else if w < 200 ∨ h < 50 then adjust "below 200x50" (-15)
  else if 250 ≤ w ∧ 60 ≤ h then adjust "at least 250x60" 5
  else none

/-- How long its text is. -/
def textLength : FactSheet → Option Adjustment :=
  tiered .textLength .textLength
    [.above 30 (-25), .above 25 (-15), .above 20 (-8),
      ⟨fun v => v ≤ 15 ∧ 5 < v, "within 6-15", 5⟩]

/-- How many clickable elements come before it. -/
def distractions : FactSheet → Option Adjustment :=
  tiered .distractions .elementsBefore [.above 7 (-20), .above 5 (-10)]

/-- How large it is on a mobile device. -/
def mobile (s : FactSheet) : Option Adjustment :=
  let w := s.getOrInitial .mobileWidth
  let h := s.getOrInitial .mobileHeight
  if w < 180 ∨ h < 48 then
    some ⟨Factor.mobile.name, s!"{Number.text w}x{Number.text h} below 180x48", -15⟩
  else tiered .mobile .mobileWidth [.below 200 (-8)] s

/-- Whether a click is answered at once. -/
def feedback (s : FactSheet) : Option Adjustment :=
  if s.getOrInitial .loadingAnimation == 0 then
    some ⟨Factor.feedback.name, "no loading animation", -10⟩
  else none

/-- How easily the call to action is seen. -/
def visibility (s : FactSheet) : Breakdown :=
  .ofAdjustments ([position, contrast, whitespace, ctaCount, color].filterMap (· s))

/-- How easily the call to action is clicked. -/
def clickability (s : FactSheet) : Breakdown :=
  .ofAdjustments ([size, textLength, distractions, mobile, feedback].filterMap (· s))

end Score

end CallToAction
