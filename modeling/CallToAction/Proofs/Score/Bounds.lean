import CallToAction.Proofs.Score.Factors
import Mathlib.Data.List.Induction

/-!
# The bounds of the scores

A factor earns within a range of its own, and at most once.  So whatever the values on a sheet are,
the sum behind a score lies within 0 and 110, also while it is still being made up, and only the
bound of 100 ever holds it back.

* `Factor.lowest`, `Factor.highest`: the range of a factor;
* `Score.total_mem_range`: what some of the adjustments come to;
* `Score.headings_sublist`: adjustments stand in the order of their factors;
* `Tally`: a score while it is made up, with its sum in a machine word;
* `Tally.exact_apply`, `Tally.exact_after`: what every adjustment keeps, and so the whole tally;
* `Score.breakdowns_balanced`: what holds of every breakdown.
-/

namespace CallToAction

/-! ### Ranges of factors -/

namespace Factor

/-- The most that a factor costs. -/
def lowest : Factor → ℤ
  | position | size => -30
  | contrast | textLength => -25
  | whitespace | distractions => -20
  | ctaCount | mobile => -15
  | color | feedback => -10

/-- The most that a factor adds. -/
def highest : Factor → ℤ
  | position | contrast | size | textLength => 5
  | _ => 0

theorem lowest_nonpos (f : Factor) : f.lowest ≤ 0 := by cases f <;> decide

theorem highest_nonneg (f : Factor) : 0 ≤ f.highest := by cases f <;> decide

end Factor

namespace Score

variable {s : FactSheet} {factor : Factor}

/-- A factor with tiers earns within the range that all of them keep to. -/
theorem delta?_mem_of_tiered {key : Fact} {tiers : List Tier} {low high d : ℤ}
    (h : adjustment? factor = tiered factor key tiers)
    (range : ∀ tier ∈ tiers, low ≤ tier.delta ∧ tier.delta ≤ high)
    (earned : delta? factor s = some d) : low ≤ d ∧ d ≤ high := by
  rw [delta?_of_tiered h] at earned
  obtain ⟨tier, found, rfl⟩ := Option.map_eq_some_iff.1 earned
  exact range tier (List.mem_of_find?_eq_some found)

/-- A factor earns within its range. -/
theorem delta?_mem_range {d : ℤ} (earned : delta? factor s = some d) :
    factor.lowest ≤ d ∧ d ≤ factor.highest := by
  cases factor with
  | size =>
    rw [delta?_size] at earned
    split_ifs at earned <;> cases earned <;> decide
  | mobile =>
    rw [delta?_mobile, Tier.delta?_cons] at earned
    split_ifs at earned <;> cases earned <;> decide
  | feedback =>
    rw [delta?_feedback] at earned
    split_ifs at earned
    cases earned
    decide
  | _ => exact delta?_mem_of_tiered rfl (by decide) earned

/-! ### Sums -/

/-- Some of the adjustments come to no less than all the factors may cost, and to no more than all
of them may add. -/
theorem total_mem_range (factors : List Factor) {as : List Adjustment}
    (some : as.Sublist (factors.filterMap (adjustment? · s))) :
    (factors.map Factor.lowest).sum ≤ Adjustment.total as ∧
      Adjustment.total as ≤ (factors.map Factor.highest).sum := by
  induction factors generalizing as with
  | nil =>
    obtain rfl := List.sublist_nil.1 some
    decide
  | cons factor factors ih =>
    have low := factor.lowest_nonpos
    have high := factor.highest_nonneg
    rw [List.map_cons, List.sum_cons, List.map_cons, List.sum_cons]
    cases earned : adjustment? factor s with
    | none =>
      simp only [List.filterMap_cons, earned] at some
      have := ih some
      omega
    | some a =>
      simp only [List.filterMap_cons, earned, List.sublist_cons_iff] at some
      rcases some with without | ⟨rest, rfl, others⟩
      · have := ih without
        omega
      · have := ih others
        have : delta? factor s = .some a.delta := by rw [delta?, earned, Option.map_some]
        have := delta?_mem_range this
        rw [Adjustment.total]
        omega

/-- The adjustments of factors stand in the order of the factors, one for each factor at most. -/
theorem headings_sublist (s : FactSheet) (factors : List Factor) :
    ((factors.filterMap (adjustment? · s)).map (·.factor)).Sublist (factors.map Factor.name) := by
  induction factors with
  | nil => exact .slnil
  | cons factor factors ih =>
    cases earned : adjustment? factor s with
    | none =>
      simp only [List.filterMap_cons, earned, List.map_cons]
      exact ih.cons _
    | some a =>
      simp only [List.filterMap_cons, earned, List.map_cons, factor_of_adjustment? s earned]
      exact ih.cons_cons _

end Score

/-! ### Tallies -/

namespace Adjustment

theorem total_eq_sum (as : List Adjustment) : total as = (as.map (·.delta)).sum := by
  induction as with
  | nil => rfl
  | cons a as ih => rw [total, ih, List.map_cons, List.sum_cons]

theorem total_append (as bs : List Adjustment) : total (as ++ bs) = total as + total bs := by
  rw [total_eq_sum, total_eq_sum, total_eq_sum, List.map_append, List.sum_append]

end Adjustment

/-- A score while it is made up: the sum, in a word of 32 bits, and the adjustments so far. -/
structure Tally where
  sum : Int32
  adjustments : List Adjustment

namespace Tally

/-- The tally before any adjustment. -/
def start : Tally := ⟨100, []⟩

/-- Make an adjustment. -/
def apply (t : Tally) (a : Adjustment) : Tally := ⟨t.sum + .ofInt a.delta, t.adjustments ++ [a]⟩

/-- Look at a factor, which makes an adjustment or none. -/
def visit (s : FactSheet) (t : Tally) (factor : Factor) : Tally :=
  match Score.adjustment? factor s with
  | some a => t.apply a
  | none => t

/-- The tally after some factors. -/
def after (s : FactSheet) (factors : List Factor) : Tally := factors.foldl (visit s) start

/-- The breakdown that a tally ends with, its score held within 0 and 100. -/
def finish (t : Tally) : Breakdown :=
  ⟨t.sum.toInt, (max 0 (min t.sum.toInt 100)).toNat, t.adjustments⟩

/-- The word holds what has been added up so far, but for what exceeds it. -/
def Exact (t : Tally) : Prop := t.sum = .ofInt (100 + Adjustment.total t.adjustments)

variable (s : FactSheet)

theorem exact_apply {t : Tally} (h : t.Exact) (a : Adjustment) : (t.apply a).Exact := by
  have single : Adjustment.total [a] = a.delta := Int.add_zero _
  show t.sum + .ofInt a.delta = .ofInt (100 + Adjustment.total (t.adjustments ++ [a]))
  rw [h, Adjustment.total_append, single, ← Int32.ofInt_add, Int.add_assoc]

theorem exact_visit {t : Tally} (h : t.Exact) (factor : Factor) : (t.visit s factor).Exact := by
  unfold visit
  cases Score.adjustment? factor s with
  | none => exact h
  | some a => exact exact_apply h a

theorem after_concat (factors : List Factor) (factor : Factor) :
    after s (factors ++ [factor]) = (after s factors).visit s factor := by
  rw [after, List.foldl_append]
  rfl

theorem exact_after (factors : List Factor) : (after s factors).Exact := by
  induction factors using List.reverseRecOn with
  | nil => rfl
  | append_singleton factors factor ih =>
    rw [after_concat]
    exact exact_visit s ih factor

theorem adjustments_after (factors : List Factor) :
    (after s factors).adjustments = factors.filterMap (Score.adjustment? · s) := by
  induction factors using List.reverseRecOn with
  | nil => rfl
  | append_singleton factors factor ih =>
    rw [after_concat, List.filterMap_append, ← ih]
    cases earned : Score.adjustment? factor s <;> simp [visit, earned, apply]

end Tally

/-! ### Breakdowns -/

/-- What holds of a breakdown by factors with these headings, in their order. -/
structure Breakdown.Balanced (headings : List String) (b : Breakdown) : Prop where
  raw_eq : b.raw = 100 + (b.adjustments.map (·.delta)).sum
  raw_mem : 0 ≤ b.raw ∧ b.raw ≤ 110
  /-- The lower bound of the score holds nothing back. -/
  score_eq : (b.score : ℤ) = min b.raw 100
  once : (b.adjustments.map (·.factor)).Nodup
  inOrder : (b.adjustments.map (·.factor)).Sublist headings

/-- Factor by factor, a tally leads to a breakdown, and its word always holds the sum so far. -/
structure Tally.LeadsTo (s : FactSheet) (factors : List Factor) (b : Breakdown) : Prop where
  holds : ∀ visited, visited <+: factors →
    (after s visited).sum.toInt = 100 + ((after s visited).adjustments.map (·.delta)).sum ∧
      0 ≤ (after s visited).sum.toInt ∧ (after s visited).sum.toInt ≤ 110
  finish_eq : (after s factors).finish = b

namespace Score

section Factors

variable (s : FactSheet) (factors : List Factor)

/-- Factors that cost 100 at most and add 10 at most lead to balanced breakdowns. -/
theorem balanced_of_factors (distinct : factors.Nodup)
    (cost : -100 ≤ (factors.map Factor.lowest).sum)
    (gain : (factors.map Factor.highest).sum ≤ 10) :
    (Breakdown.ofAdjustments (factors.filterMap (adjustment? · s))).Balanced
      (factors.map Factor.name) := by
  have whole := total_mem_range factors (List.Sublist.refl (factors.filterMap (adjustment? · s)))
  have order := headings_sublist s factors
  refine ⟨?_, ?_, ?_, ?_, order⟩
  · rw [Breakdown.ofAdjustments_raw, Adjustment.total_eq_sum, Breakdown.ofAdjustments_adjustments]
  · rw [Breakdown.ofAdjustments_raw]
    omega
  · rw [Breakdown.ofAdjustments]
    dsimp only
    omega
  · exact (distinct.map fun _ _ => Factor.name_injective).sublist order

/-- A tally of such factors leads to the same breakdown. -/
theorem leadsTo_of_factors (cost : -100 ≤ (factors.map Factor.lowest).sum)
    (gain : (factors.map Factor.highest).sum ≤ 10) :
    Tally.LeadsTo s factors (.ofAdjustments (factors.filterMap (adjustment? · s))) := by
  have held (visited : List Factor) (first : visited <+: factors) :
      (Tally.after s visited).sum.toInt =
          100 + Adjustment.total (visited.filterMap (adjustment? · s)) ∧
        0 ≤ (Tally.after s visited).sum.toInt ∧ (Tally.after s visited).sum.toInt ≤ 110 := by
    have some := total_mem_range factors (first.sublist.filterMap (adjustment? · s))
    have sum := Tally.exact_after s visited
    rw [Tally.Exact, Tally.adjustments_after] at sum
    -- what has been added up so far fits into the word
    rw [sum, Int32.toInt_ofInt_of_le (by omega) (by omega)]
    omega
  refine ⟨fun visited first => ?_, ?_⟩
  · rw [Tally.adjustments_after, ← Adjustment.total_eq_sum]
    exact held visited first
  · obtain ⟨sum, low, high⟩ := held factors (List.prefix_refl factors)
    rw [Tally.finish, Breakdown.ofAdjustments, Tally.adjustments_after, Breakdown.mk.injEq]
    exact ⟨sum, by omega, rfl⟩

end Factors

/-- **Scores are bounded and their breakdowns account for them.**  Whatever is known on a sheet, the
raw score is 100 plus the adjustments and lies within 0 and 110; the score is the raw score, or 100
where this is less; and each factor is adjusted at most once, in the order of the factors.  A tally
that adds up in a machine word comes to the same, within the same bounds at every factor. -/
theorem breakdowns_balanced (s : FactSheet) :
    ((visibility s).Balanced ["Position", "Contrast", "Whitespace", "CTA count", "Color"] ∧
      Tally.LeadsTo s [.position, .contrast, .whitespace, .ctaCount, .color] (visibility s)) ∧
    (clickability s).Balanced ["Size", "Text length", "Distractions", "Mobile", "Feedback"] ∧
      Tally.LeadsTo s [.size, .textLength, .distractions, .mobile, .feedback]
        (clickability s) := by
  rw [visibility_eq, clickability_eq]
  refine ⟨⟨?_, ?_⟩, ?_, ?_⟩
  · exact balanced_of_factors s visibilityFactors (by decide) (by decide) (by decide)
  · exact leadsTo_of_factors s visibilityFactors (by decide) (by decide)
  · exact balanced_of_factors s clickabilityFactors (by decide) (by decide) (by decide)
  · exact leadsTo_of_factors s clickabilityFactors (by decide) (by decide)

/-- Both bounds are reached, the lower one on a sheet with values that are no measures. -/
example :
    let worst := FactSheet.ofList [(.position, 5000), (.contrast, -1), (.whitespace, 0),
      (.ctaCount, 10), (.similarColors, 9), (.width, 10), (.textLength, 80),
      (.elementsBefore, 30), (.mobileWidth, 20), (.loadingAnimation, -0)]
    let best := FactSheet.ofList [(.position, 100), (.contrast, 21), (.width, 400), (.height, 80)]
    (visibility worst).raw = 0 ∧ (clickability worst).raw = 0 ∧
      (visibility best).raw = 110 ∧ (clickability best).raw = 110 ∧
      (visibility best).score = 100 := by
  decide +kernel

end Score

end CallToAction
