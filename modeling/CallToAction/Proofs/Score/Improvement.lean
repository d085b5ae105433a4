import CallToAction.Proofs.FactSheet.Reading
import CallToAction.Proofs.Score.Factors

/-!
# Better pages score no less

For most facts the score has a direction: less is better, or more is.  Tiers follow it, since the
greatest deduction comes first and a bonus last, so a value that is at least as good leads to a
tier that earns at least as much.  A text is better the shorter it is, as long as it does not fall
to five characters, where the bonus ends.

* `Tier.Rewards`: tiers that follow a direction, built up tier by tier;
* `Score.points`: what a factor comes to, and `Score.points_size_le`, `Score.points_mobile_le`,
  `Score.points_feedback_le` for the factors that are more than tiers;
* `FactSheet.EasierToSee`, `FactSheet.EasierToClick`: pages that are at least as good;
* `Score.scores_le_of_easier`: a page that is at least as good scores no less.
-/

namespace CallToAction

/-! ### First cases -/

section Cases

variable {p q : Prop} [Decidable p] [Decidable q] {d x y : ℤ}

/-- A deduction in the first case that is escaped more easily. -/
theorem ite_le_ite_of_deduction (escapes : q → p) (greatest : d ≤ y) (behind : x ≤ y) :
    (if p then d else x) ≤ if q then d else y := by
  split_ifs with hp hq hq
  · exact le_rfl
  · exact greatest
  · exact absurd (escapes hq) hp
  · exact behind

/-- A bonus in the first case that is gained more easily. -/
theorem ite_le_ite_of_bonus (gains : p → q) (greatest : x ≤ d) (behind : x ≤ y) :
    (if p then d else x) ≤ if q then d else y := by
  split_ifs with hp hq hq
  · exact le_rfl
  · exact absurd (gains hp) hq
  · exact greatest
  · exact behind

end Cases

/-! ### Tiers in a direction -/

namespace Tier

/-- What tiers come to for a value. -/
def points (tiers : List Tier) (v : Float) : ℤ := (delta? tiers v).getD 0

section Points

variable {tier : Tier} {rest : List Tier} {v : Float} {d : ℤ}

theorem points_cons :
    points (tier :: rest) v = if tier.admits v then tier.delta else points rest v := by
  rw [points, delta?_cons]
  split_ifs <;> rfl

/-- What tiers come to is what one of them earns, or nothing. -/
theorem points_cases (tiers : List Tier) (v : Float) :
    points tiers v = 0 ∨ ∃ tier ∈ tiers, points tiers v = tier.delta := by
  unfold points delta?
  cases found : tiers.find? fun tier => tier.admits v with
  | none => exact .inl rfl
  | some tier => exact .inr ⟨tier, List.mem_of_find?_eq_some found, rfl⟩

theorem le_points (each : ∀ tier ∈ rest, d ≤ tier.delta) (none : d ≤ 0) : d ≤ points rest v := by
  rcases points_cases rest v with nothing | ⟨tier, member, earned⟩
  · rw [nothing]
    exact none
  · rw [earned]
    exact each tier member

theorem points_le (each : ∀ tier ∈ rest, tier.delta ≤ d) (none : 0 ≤ d) : points rest v ≤ d := by
  rcases points_cases rest v with nothing | ⟨tier, member, earned⟩
  · rw [nothing]
    exact none
  · rw [earned]
    exact each tier member

end Points

/-- Tiers earn no less for a better value. -/
def Rewards (better : Float → Float → Prop) (tiers : List Tier) : Prop :=
  ∀ v w, better v w → points tiers v ≤ points tiers w

namespace Rewards

variable {better : Float → Float → Prop} {tier : Tier} {rest : List Tier}

theorem nil : Rewards better [] := fun _ _ _ => le_rfl

/-- The greatest deduction may come first if a better value escapes it more easily. -/
theorem deduction (escapes : ∀ {v w}, better v w → tier.admits w = true → tier.admits v = true)
    (greatest : ∀ other ∈ rest, tier.delta ≤ other.delta) (cost : tier.delta ≤ 0)
    (behind : Rewards better rest) : Rewards better (tier :: rest) := by
  intro v w h
  rw [points_cons, points_cons]
  exact ite_le_ite_of_deduction (escapes h) (le_points greatest cost) (behind v w h)

/-- The greatest bonus may come first if a better value gains it more easily. -/
theorem bonus (gains : ∀ {v w}, better v w → tier.admits v = true → tier.admits w = true)
    (greatest : ∀ other ∈ rest, other.delta ≤ tier.delta) (gain : 0 ≤ tier.delta)
    (behind : Rewards better rest) : Rewards better (tier :: rest) := by
  intro v w h
  rw [points_cons, points_cons]
  exact ite_le_ite_of_bonus (gains h) (points_le greatest gain) (behind v w h)

end Rewards

section Directions

variable {v w bound : Float} {d : ℤ}

theorem above_of_le (h : w ≤ v) (hw : (above bound d).admits w = true) :
    (above bound d).admits v = true :=
  admits_above.2 (Number.lt_of_lt_of_le (admits_above.1 hw) h)

theorem atMost_of_le (h : w ≤ v) (hv : (atMost bound d).admits v = true) :
    (atMost bound d).admits w = true :=
  admits_atMost.2 (Number.le_trans h (admits_atMost.1 hv))

theorem below_of_le (h : v ≤ w) (hw : (below bound d).admits w = true) :
    (below bound d).admits v = true :=
  admits_below.2 (Number.lt_of_le_of_lt h (admits_below.1 hw))

theorem atLeast_of_le (h : v ≤ w) (hv : (atLeast bound d).admits v = true) :
    (atLeast bound d).admits w = true :=
  admits_atLeast.2 (Number.le_trans (admits_atLeast.1 hv) h)

theorem Rewards.above_above {a b : Float} {d e : ℤ} (order : d ≤ e) (cost : e ≤ 0) :
    Rewards (fun v w => w ≤ v) [above a d, above b e] := by
  refine .deduction above_of_le (fun other h => ?_) (order.trans cost) ?_
  · obtain rfl := List.mem_singleton.1 h
    exact order
  · exact .deduction above_of_le (fun other h => nomatch h) cost .nil

end Directions

end Tier

/-! ### Pages that are at least as good -/

/-- A text of the second length is at least as good: it is of the same length, or shorter but still
longer than five characters. -/
def ShortensTo (v w : Float) : Prop := (w == v) = true ∨ 5 < w ∧ w < v

instance (v w : Float) : Decidable (ShortensTo v w) := inferInstanceAs (Decidable (_ ∨ _))

theorem ShortensTo.le {v w : Float} : ShortensTo v w → w ≤ v
  | .inl same => Number.le_of_beq same
  | .inr ⟨_, shorter⟩ => Number.le_of_lt shorter

theorem ShortensTo.above_five {v w : Float} (h : ShortensTo v w) (hv : 5 < v) : 5 < w := by
  rcases h with same | ⟨long, -⟩
  · exact Number.lt_of_lt_of_le hv (Number.le_of_beq (Number.beq_comm.1 same))
  · exact long

namespace FactSheet

/-- The call to action of the second page is at least as easily seen. -/
structure EasierToSee (s t : FactSheet) : Prop where
  position : t.getOrInitial .position ≤ s.getOrInitial .position
  contrast : s.getOrInitial .contrast ≤ t.getOrInitial .contrast
  whitespace : s.getOrInitial .whitespace ≤ t.getOrInitial .whitespace
  ctaCount : t.getOrInitial .ctaCount ≤ s.getOrInitial .ctaCount
  similarColors : t.getOrInitial .similarColors ≤ s.getOrInitial .similarColors

/-- The call to action of the second page is at least as easily clicked. -/
structure EasierToClick (s t : FactSheet) : Prop where
  width : s.getOrInitial .width ≤ t.getOrInitial .width
  height : s.getOrInitial .height ≤ t.getOrInitial .height
  textLength : ShortensTo (s.getOrInitial .textLength) (t.getOrInitial .textLength)
  elementsBefore : t.getOrInitial .elementsBefore ≤ s.getOrInitial .elementsBefore
  mobileWidth : s.getOrInitial .mobileWidth ≤ t.getOrInitial .mobileWidth
  mobileHeight : s.getOrInitial .mobileHeight ≤ t.getOrInitial .mobileHeight
  loadingAnimation : s.getOrInitial .loadingAnimation ≤ t.getOrInitial .loadingAnimation

end FactSheet

/-! ### What the factors come to -/

namespace Score

/-- What a factor comes to. -/
def points (factor : Factor) (s : FactSheet) : ℤ := (delta? factor s).getD 0

theorem total_eq_points (s : FactSheet) (factors : List Factor) :
    Adjustment.total (factors.filterMap (adjustment? · s)) = (factors.map (points · s)).sum := by
  induction factors with
  | nil => rfl
  | cons factor factors ih =>
    rw [List.map_cons, List.sum_cons, ← ih, points, delta?]
    cases earned : adjustment? factor s <;> simp [earned, Adjustment.total]

section Factors

variable {s t : FactSheet} {factor : Factor} {key : Fact} {tiers : List Tier}
  {better : Float → Float → Prop}

/-- A factor whose tiers follow a direction comes to no less for a better value. -/
theorem points_le_of_rewards (better : Float → Float → Prop)
    (h : adjustment? factor = tiered factor key tiers) (rewards : Tier.Rewards better tiers)
    (improved : better (s.getOrInitial key) (t.getOrInitial key)) :
    points factor s ≤ points factor t := by
  rw [points, points, delta?_of_tiered h, delta?_of_tiered h]
  exact rewards _ _ improved

open Tier Tier.Rewards

theorem points_position_le (h : t.getOrInitial .position ≤ s.getOrInitial .position) :
    points .position s ≤ points .position t := by
  refine points_le_of_rewards (fun v w => w ≤ v) rfl ?_ h
  refine deduction above_of_le (by decide) (by decide) ?_
  refine deduction above_of_le (by decide) (by decide) ?_
  exact bonus atMost_of_le (by decide) (by decide) nil

theorem points_contrast_le (h : s.getOrInitial .contrast ≤ t.getOrInitial .contrast) :
    points .contrast s ≤ points .contrast t := by
  refine points_le_of_rewards (fun v w => v ≤ w) rfl ?_ h
  refine deduction below_of_le (by decide) (by decide) ?_
  refine deduction below_of_le (by decide) (by decide) ?_
  exact bonus atLeast_of_le (by decide) (by decide) nil

theorem points_whitespace_le (h : s.getOrInitial .whitespace ≤ t.getOrInitial .whitespace) :
    points .whitespace s ≤ points .whitespace t := by
  refine points_le_of_rewards (fun v w => v ≤ w) rfl ?_ h
  refine deduction below_of_le (by decide) (by decide) ?_
  exact deduction below_of_le (by decide) (by decide) nil

theorem points_ctaCount_le (h : t.getOrInitial .ctaCount ≤ s.getOrInitial .ctaCount) :
    points .ctaCount s ≤ points .ctaCount t :=
  points_le_of_rewards (fun v w => w ≤ v) rfl (above_above (by decide) (by decide)) h

theorem points_color_le (h : t.getOrInitial .similarColors ≤ s.getOrInitial .similarColors) :
    points .color s ≤ points .color t :=
  points_le_of_rewards (fun v w => w ≤ v) rfl (above_above (by decide) (by decide)) h

theorem points_distractions_le
    (h : t.getOrInitial .elementsBefore ≤ s.getOrInitial .elementsBefore) :
    points .distractions s ≤ points .distractions t :=
  points_le_of_rewards (fun v w => w ≤ v) rfl (above_above (by decide) (by decide)) h

theorem points_textLength_le
    (h : ShortensTo (s.getOrInitial .textLength) (t.getOrInitial .textLength)) :
    points .textLength s ≤ points .textLength t := by
  refine points_le_of_rewards ShortensTo rfl ?_ h
  refine deduction (fun h => above_of_le h.le) (by decide) (by decide) ?_
  refine deduction (fun h => above_of_le h.le) (by decide) (by decide) ?_
  refine deduction (fun h => above_of_le h.le) (by decide) (by decide) ?_
  refine bonus (fun {v w} h hv => ?_) (by decide) (by decide) nil
  -- the bonus has a lower end as well, which a text that is made shorter does not reach
  obtain ⟨short, long⟩ : v ≤ 15 ∧ 5 < v := of_decide_eq_true hv
  exact decide_eq_true ⟨Number.le_trans h.le short, h.above_five long⟩

theorem points_size (s : FactSheet) :
    points .size s =
      if s.getOrInitial .width < 180 ∨ s.getOrInitial .height < 44 then -30
      else if s.getOrInitial .width < 200 ∨ s.getOrInitial .height < 50 then -15
      else if 250 ≤ s.getOrInitial .width ∧ 60 ≤ s.getOrInitial .height then 5
      else 0 := by
  rw [points, delta?_size]
  split_ifs <;> rfl

/-- A larger call to action falls short of no further bounds and meets all that it met. -/
theorem points_size_le (width : s.getOrInitial .width ≤ t.getOrInitial .width)
    (height : s.getOrInitial .height ≤ t.getOrInitial .height) :
    points .size s ≤ points .size t := by
  have short {w h : Float} (small : t.getOrInitial .width < w ∨ t.getOrInitial .height < h) :
      s.getOrInitial .width < w ∨ s.getOrInitial .height < h :=
    small.imp (Number.lt_of_le_of_lt width) (Number.lt_of_le_of_lt height)
  have large (met : 250 ≤ s.getOrInitial .width ∧ 60 ≤ s.getOrInitial .height) :
      250 ≤ t.getOrInitial .width ∧ 60 ≤ t.getOrInitial .height :=
    ⟨Number.le_trans met.1 width, Number.le_trans met.2 height⟩
  rw [points_size, points_size]
  refine ite_le_ite_of_deduction short (by split_ifs <;> decide) ?_
  refine ite_le_ite_of_deduction short (by split_ifs <;> decide) ?_
  exact ite_le_ite_of_bonus large (by decide) le_rfl

theorem points_mobile (s : FactSheet) :
    points .mobile s =
      if s.getOrInitial .mobileWidth < 180 ∨ s.getOrInitial .mobileHeight < 48 then -15
      else Tier.points [.below 200 (-8)] (s.getOrInitial .mobileWidth) := by
  rw [points, delta?_mobile]
  split_ifs <;> rfl

theorem points_mobile_le (width : s.getOrInitial .mobileWidth ≤ t.getOrInitial .mobileWidth)
    (height : s.getOrInitial .mobileHeight ≤ t.getOrInitial .mobileHeight) :
    points .mobile s ≤ points .mobile t := by
  have narrow : Rewards (fun v w => v ≤ w) [.below 200 (-8)] :=
    deduction below_of_le (by decide) (by decide) nil
  rw [points_mobile, points_mobile]
  refine ite_le_ite_of_deduction (fun small => ?_) (le_points (by decide) (by decide))
    (narrow _ _ width)
  exact small.imp (Number.lt_of_le_of_lt width) (Number.lt_of_le_of_lt height)

theorem points_feedback (s : FactSheet) :
    points .feedback s = if s.getOrInitial .loadingAnimation == 0 then -10 else 0 := by
  rw [points, delta?_feedback]
  split_ifs <;> rfl

/-- Of the valid flags only zero is no greater than zero. -/
theorem points_feedback_le (valid : s.violations = [])
    (h : s.getOrInitial .loadingAnimation ≤ t.getOrInitial .loadingAnimation) :
    points .feedback s ≤ points .feedback t := by
  rw [points_feedback, points_feedback]
  refine ite_le_ite_of_deduction (fun silent => ?_) (by decide) le_rfl
  refine (FactSheet.flag_getOrInitial valid).resolve_right fun flag => ?_
  have : (1 : Float) ≤ 0 :=
    Number.le_trans (Number.le_of_beq (Number.beq_comm.1 flag))
      (Number.le_trans h (Number.le_of_beq silent))
  exact absurd this (by decide)

/-! ### The scores -/

/-- A breakdown in which no factor comes to less has no lower score. -/
theorem scores_le_of_points {factors : List Factor}
    (each : ∀ factor ∈ factors, points factor s ≤ points factor t) :
    let before := Breakdown.ofAdjustments (factors.filterMap (adjustment? · s))
    let after := Breakdown.ofAdjustments (factors.filterMap (adjustment? · t))
    before.raw ≤ after.raw ∧ before.score ≤ after.score := by
  have sums := List.sum_le_sum each
  rw [← total_eq_points, ← total_eq_points] at sums
  simp only [Breakdown.ofAdjustments]
  omega

end Factors

variable (s t : FactSheet)

/-- **Better pages score no less.**  A page on which the call to action is at least as easily seen
has no lower visibility score, and one on which it is at least as easily clicked has no lower
clickability score, before the scores are held within their bounds and after.  Only the flag of the
first page has to be valid. -/
theorem scores_le_of_easier :
    (s.EasierToSee t →
      (visibility s).raw ≤ (visibility t).raw ∧ (visibility s).score ≤ (visibility t).score) ∧
    (s.violations = [] → s.EasierToClick t →
      (clickability s).raw ≤ (clickability t).raw ∧
        (clickability s).score ≤ (clickability t).score) := by
  constructor
  · intro easier
    rw [visibility_eq, visibility_eq]
    refine scores_le_of_points ?_
    simp only [visibilityFactors, List.forall_mem_cons]
    exact ⟨points_position_le easier.position, points_contrast_le easier.contrast,
      points_whitespace_le easier.whitespace, points_ctaCount_le easier.ctaCount,
      points_color_le easier.similarColors, List.forall_mem_nil _⟩
  · intro valid easier
    rw [clickability_eq, clickability_eq]
    refine scores_le_of_points ?_
    simp only [clickabilityFactors, List.forall_mem_cons]
    exact ⟨points_size_le easier.width easier.height, points_textLength_le easier.textLength,
      points_distractions_le easier.elementsBefore,
      points_mobile_le easier.mobileWidth easier.mobileHeight,
      points_feedback_le valid easier.loadingAnimation, List.forall_mem_nil _⟩

/-- Two pages on either side of several bounds; the second one exceeds the upper bound of its
clickability score. -/
theorem scores_le_of_easier_bounds :
    let s := FactSheet.ofList [(.position, 600.5), (.contrast, 4.4), (.ctaCount, 2),
      (.width, 249.5), (.height, 60), (.textLength, 16), (.elementsBefore, 6),
      (.mobileWidth, 179.5), (.loadingAnimation, 0)]
    let t := FactSheet.ofList [(.position, 600), (.contrast, 4.5), (.ctaCount, 1),
      (.width, 250), (.height, 60), (.textLength, 15), (.elementsBefore, 5),
      (.mobileWidth, 180), (.loadingAnimation, 1)]
    s.violations = [] ∧ t.violations = [] ∧ s.EasierToSee t ∧ s.EasierToClick t ∧
      (visibility s).raw ≤ (visibility t).raw ∧ (clickability s).raw ≤ (clickability t).raw ∧
      (visibility s).raw = 67 ∧ (visibility t).raw = 100 ∧
      (clickability s).raw = 65 ∧ (clickability t).raw = 102 := by
  intro s t
  have valid : s.violations = [] := by decide +kernel
  have seen : s.EasierToSee t := by constructor <;> decide +kernel
  have clicked : s.EasierToClick t := by constructor <;> decide +kernel
  obtain ⟨visible, clickable⟩ := scores_le_of_easier s t
  exact ⟨valid, by decide +kernel, seen, clicked, (visible seen).1, (clickable valid clicked).1,
    by decide +kernel, by decide +kernel, by decide +kernel, by decide +kernel⟩

end Score

end CallToAction
