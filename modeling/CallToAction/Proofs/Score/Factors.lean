import CallToAction.Proofs.Number.Line
import CallToAction.Score
import Mathlib.Data.List.Basic

/-!
# The factors of the scores

Every factor has a heading of its own, so an adjustment in a breakdown tells which factor it comes
from, and the breakdown can be asked for the adjustment of a factor.

* `Tier.delta?`: what the tiers of a factor earn for a value;
* `Score.delta?`: what a factor earns on a page;
* `visibility_records_iff`, `clickability_records_iff`: what a breakdown records of a factor is what
  the factor earns.
-/

namespace CallToAction

theorem Factor.name_injective {f g : Factor} (h : f.name = g.name) : f = g := by
  revert h
  cases f <;> cases g <;> decide

/-! ### Tiers -/

namespace Tier

/-- What the first tier that admits a value earns. -/
def delta? (tiers : List Tier) (v : Float) : Option Int :=
  (tiers.find? fun tier => tier.admits v).map (·.delta)

section Admits

variable {bound v : Float} {d : Int}

theorem admits_above : (above bound d).admits v = true ↔ bound < v := decide_eq_true_iff

theorem admits_below : (below bound d).admits v = true ↔ v < bound := decide_eq_true_iff

theorem admits_atMost : (atMost bound d).admits v = true ↔ v ≤ bound := decide_eq_true_iff

theorem admits_atLeast : (atLeast bound d).admits v = true ↔ bound ≤ v := decide_eq_true_iff

end Admits

section Delta

variable (tier : Tier) (rest : List Tier) (v : Float)

theorem delta?_cons :
    delta? (tier :: rest) v = if tier.admits v then some tier.delta else delta? rest v := by
  by_cases h : tier.admits v <;> simp [delta?, h]

theorem delta?_ne_none_iff (tiers : List Tier) :
    delta? tiers v ≠ none ↔ ∃ tier ∈ tiers, tier.admits v = true := by
  simp [delta?]

/-- Tiers that earn something else than a delta do not earn it for any value. -/
theorem delta?_ne_some {tiers : List Tier} {d : Int} (h : ∀ tier ∈ tiers, tier.delta ≠ d) :
    delta? tiers v ≠ some d := by
  intro earned
  obtain ⟨tier, found, rfl⟩ := Option.map_eq_some_iff.1 earned
  exact h tier (List.mem_of_find?_eq_some found) rfl

/-- Tiers of bonuses deduct nothing. -/
theorem not_deduction {tiers : List Tier} (h : ∀ tier ∈ tiers, 0 ≤ tier.delta) :
    ¬ ∃ d < 0, delta? tiers v = some d := by
  rintro ⟨d, negative, earned⟩
  exact delta?_ne_some v (fun tier member same => by have := h tier member; omega) earned

/-- Where no later tier earns as much, what the first one earns tells that it admits the value. -/
theorem delta?_eq_first_iff (distinct : ∀ other ∈ rest, other.delta ≠ tier.delta) :
    delta? (tier :: rest) v = some tier.delta ↔ tier.admits v = true := by
  rw [delta?_cons]
  split_ifs with h
  · simp [h]
  · exact iff_of_false (delta?_ne_some v distinct) h

end Delta

end Tier

/-! ### Factors -/

namespace Score

/-- The adjustment of a factor. -/
def adjustment? : Factor → FactSheet → Option Adjustment
  | .position => position
  | .contrast => contrast
  | .whitespace => whitespace
  | .ctaCount => ctaCount
  | .color => color
  | .size => size
  | .textLength => textLength
  | .distractions => distractions
  | .mobile => mobile
  | .feedback => feedback

/-- What a factor earns. -/
def delta? (factor : Factor) (s : FactSheet) : Option Int :=
  (adjustment? factor s).map (·.delta)

/-- The factors of the visibility score, in their order. -/
def visibilityFactors : List Factor := [.position, .contrast, .whitespace, .ctaCount, .color]

/-- The factors of the clickability score, in their order. -/
def clickabilityFactors : List Factor :=
  [.size, .textLength, .distractions, .mobile, .feedback]

variable (s : FactSheet)

theorem visibility_eq :
    visibility s = .ofAdjustments (visibilityFactors.filterMap (adjustment? · s)) := (rfl)

theorem clickability_eq :
    clickability s = .ofAdjustments (clickabilityFactors.filterMap (adjustment? · s)) := (rfl)

/-- An adjustment by tiers bears the heading of its factor. -/
theorem factor_of_tiered {factor : Factor} {key : Fact} {tiers : List Tier} {a : Adjustment}
    (h : tiered factor key tiers s = some a) : a.factor = factor.name := by
  obtain ⟨tier, -, rfl⟩ := Option.map_eq_some_iff.1 h
  rfl

theorem delta_tiered (factor : Factor) (key : Fact) (tiers : List Tier) :
    (tiered factor key tiers s).map (·.delta) = Tier.delta? tiers (s.getOrInitial key) := by
  simp [tiered, Tier.delta?, Function.comp_def]

section Tiers

variable {s} {factor : Factor} {key : Fact} {tier : Tier} {tiers : List Tier}

theorem delta?_of_tiered (h : adjustment? factor = tiered factor key tiers) :
    delta? factor s = Tier.delta? tiers (s.getOrInitial key) := by
  rw [delta?, h, delta_tiered]

/-- What only the first tier earns is earned by the values that this tier admits. -/
theorem delta?_eq_first_iff (h : adjustment? factor = tiered factor key (tier :: tiers))
    (distinct : ∀ other ∈ tiers, other.delta ≠ tier.delta) :
    delta? factor s = some tier.delta ↔ tier.admits (s.getOrInitial key) = true := by
  rw [delta?_of_tiered h, Tier.delta?_eq_first_iff _ _ _ distinct]

/-- A factor earns something for the values that some tier admits. -/
theorem exists_delta?_iff (h : adjustment? factor = tiered factor key tiers) :
    (∃ d, delta? factor s = some d) ↔ ∃ tier ∈ tiers, tier.admits (s.getOrInitial key) = true := by
  rw [delta?_of_tiered h, ← Option.ne_none_iff_exists', Tier.delta?_ne_none_iff]

end Tiers

/-- The adjustment of a factor bears its heading. -/
theorem factor_of_adjustment? {factor : Factor} {a : Adjustment}
    (h : adjustment? factor s = some a) : a.factor = factor.name := by
  cases factor with
  | size =>
    simp only [adjustment?, size] at h
    split_ifs at h <;> cases h <;> rfl
  | mobile =>
    simp only [adjustment?, mobile] at h
    split_ifs at h
    · cases h
      rfl
    · exact factor_of_tiered s h
  | feedback =>
    simp only [adjustment?, feedback] at h
    split_ifs at h
    cases h
    rfl
  | _ => exact factor_of_tiered s h

end Score

/-! ### What the factors earn -/

namespace Score

variable (s : FactSheet)

theorem delta?_size :
    delta? .size s =
      if s.getOrInitial .width < 180 ∨ s.getOrInitial .height < 44 then some (-30)
      else if s.getOrInitial .width < 200 ∨ s.getOrInitial .height < 50 then some (-15)
      else if 250 ≤ s.getOrInitial .width ∧ 60 ≤ s.getOrInitial .height then some 5
      else none := by
  simp only [delta?, adjustment?, size]
  split_ifs <;> rfl

theorem delta?_mobile :
    delta? .mobile s =
      if s.getOrInitial .mobileWidth < 180 ∨ s.getOrInitial .mobileHeight < 48 then some (-15)
      else Tier.delta? [.below 200 (-8)] (s.getOrInitial .mobileWidth) := by
  simp only [delta?, adjustment?, mobile]
  split_ifs
  · rfl
  · exact delta_tiered s _ _ _

theorem delta?_feedback :
    delta? .feedback s = if s.getOrInitial .loadingAnimation == 0 then some (-10) else none := by
  simp only [delta?, adjustment?, feedback]
  split_ifs <;> rfl

theorem contrast_eq_iff : delta? .contrast s = some (-25) ↔ s.getOrInitial .contrast < 3 :=
  (delta?_eq_first_iff rfl (by decide)).trans Tier.admits_below

theorem whitespace_eq_iff : delta? .whitespace s = some (-20) ↔ s.getOrInitial .whitespace < 30 :=
  (delta?_eq_first_iff rfl (by decide)).trans Tier.admits_below

theorem color_eq_iff : delta? .color s = some (-10) ↔ 2 < s.getOrInitial .similarColors :=
  (delta?_eq_first_iff rfl (by decide)).trans Tier.admits_above

theorem position_eq_iff : delta? .position s = some (-30) ↔ 800 < s.getOrInitial .position :=
  (delta?_eq_first_iff rfl (by decide)).trans Tier.admits_above

theorem exists_ctaCount_iff :
    (∃ d, delta? .ctaCount s = some d) ↔ 1 < s.getOrInitial .ctaCount := by
  have more : (2 : Float) < s.getOrInitial .ctaCount → 1 < s.getOrInitial .ctaCount :=
    Number.lt_trans (by decide)
  refine (exists_delta?_iff rfl).trans ?_
  simpa [Tier.admits_above] using more

theorem exists_distractions_iff :
    (∃ d, delta? .distractions s = some d) ↔ 5 < s.getOrInitial .elementsBefore := by
  have more : (7 : Float) < s.getOrInitial .elementsBefore → 5 < s.getOrInitial .elementsBefore :=
    Number.lt_trans (by decide)
  refine (exists_delta?_iff rfl).trans ?_
  simpa [Tier.admits_above] using more

theorem textLength_eq_iff :
    (delta? .textLength s = some (-15) ∨ delta? .textLength s = some (-25)) ↔
      25 < s.getOrInitial .textLength := by
  have more : (30 : Float) < s.getOrInitial .textLength → 25 < s.getOrInitial .textLength :=
    Number.lt_trans (by decide)
  have earned : delta? .textLength s = Tier.delta? _ (s.getOrInitial .textLength) :=
    delta?_of_tiered rfl
  rw [earned, Tier.delta?_cons, Tier.delta?_cons]
  simp only [Tier.admits_above]
  split_ifs with longest longer
  · exact iff_of_true (.inr rfl) (more longest)
  · exact iff_of_true (.inl rfl) longer
  · -- the tiers behind these earn more
    refine iff_of_false ?_ longer
    rintro (h | h)
    · exact Tier.delta?_ne_some _ (by decide) h
    · exact Tier.delta?_ne_some _ (by decide) h

theorem size_eq_iff :
    delta? .size s = some (-30) ↔ s.getOrInitial .width < 180 ∨ s.getOrInitial .height < 44 := by
  rw [delta?_size]
  split_ifs with small <;> simp [small]

theorem mobile_eq_iff :
    delta? .mobile s = some (-15) ↔
      s.getOrInitial .mobileWidth < 180 ∨ s.getOrInitial .mobileHeight < 48 := by
  rw [delta?_mobile]
  split_ifs with small
  · simp [small]
  · exact iff_of_false (Tier.delta?_ne_some _ (by decide)) small

theorem feedback_eq_iff :
    delta? .feedback s = some (-10) ↔ (s.getOrInitial .loadingAnimation == 0) = true := by
  rw [delta?_feedback]
  split_ifs with silent <;> simp [silent]

/-- Contrast costs something below the bound of its second tier. -/
theorem exists_contrast_iff :
    (∃ d < 0, delta? .contrast s = some d) ↔ s.getOrInitial .contrast < 4.5 := by
  have earned : delta? .contrast s = Tier.delta? _ (s.getOrInitial .contrast) :=
    delta?_of_tiered rfl
  rw [earned, Tier.delta?_cons, Tier.delta?_cons]
  simp only [Tier.admits_below]
  split_ifs with weak faint
  · exact iff_of_true ⟨-25, by decide, rfl⟩ (Number.lt_trans weak (by decide))
  · exact iff_of_true ⟨-10, by decide, rfl⟩ faint
  · exact iff_of_false (Tier.not_deduction _ (by decide)) faint

/-- The position costs something beyond the bound of its second tier. -/
theorem exists_position_iff :
    (∃ d < 0, delta? .position s = some d) ↔ 600 < s.getOrInitial .position := by
  have earned : delta? .position s = Tier.delta? _ (s.getOrInitial .position) :=
    delta?_of_tiered rfl
  rw [earned, Tier.delta?_cons, Tier.delta?_cons]
  simp only [Tier.admits_above]
  split_ifs with deep low
  · exact iff_of_true ⟨-30, by decide, rfl⟩ (Number.lt_trans (by decide) deep)
  · exact iff_of_true ⟨-15, by decide, rfl⟩ low
  · exact iff_of_false (Tier.not_deduction _ (by decide)) low

end Score

/-! ### Breakdowns -/

/-- A breakdown records an adjustment of a factor. -/
def Breakdown.Records (b : Breakdown) (factor : Factor) (delta : Int) : Prop :=
  ∃ a ∈ b.adjustments, a.factor = factor.name ∧ a.delta = delta

namespace Score

variable (s : FactSheet)

/-- A breakdown records of a factor what the factor earns. -/
theorem records_iff {factors : List Factor} {factor : Factor} (hf : factor ∈ factors) (d : Int) :
    (Breakdown.ofAdjustments (factors.filterMap (adjustment? · s))).Records factor d ↔
      delta? factor s = some d := by
  unfold Breakdown.Records delta?
  simp only [Breakdown.ofAdjustments_adjustments, List.mem_filterMap, Option.map_eq_some_iff]
  constructor
  · rintro ⟨a, ⟨other, -, ha⟩, heading, rfl⟩
    obtain rfl := Factor.name_injective ((factor_of_adjustment? s ha).symm.trans heading)
    exact ⟨a, ha, rfl⟩
  · rintro ⟨a, ha, rfl⟩
    exact ⟨a, ⟨factor, hf, ha⟩, factor_of_adjustment? s ha, rfl⟩

theorem visibility_records_iff (factor : Factor) (hf : factor ∈ visibilityFactors) (d : Int) :
    (visibility s).Records factor d ↔ delta? factor s = some d := by
  rw [visibility_eq, records_iff s hf]

theorem clickability_records_iff (factor : Factor) (hf : factor ∈ clickabilityFactors)
    (d : Int) : (clickability s).Records factor d ↔ delta? factor s = some d := by
  rw [clickability_eq, records_iff s hf]

end Score

end CallToAction
