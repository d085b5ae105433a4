import CallToAction.Proofs.Evaluation.Agreement

/-!
# Praise and complaints

Two of the standard rules praise a page, for the position and for the size of its call to action,
and others complain about the same aspects.  Conditions that put one fact on two sides of a gap do
not hold together, which keeps praise and complaint apart in all cases but one: the size is praised
for the width alone, so a call to action that is wide and low is praised for its size and found too
small.

* `Threshold.Apart.of_le`, `Condition.not_both_of_apart`: conditions on two sides of a gap;
* `reports_praise_and_small_iff`: what is both praised and found too small;
* `KnowledgeBase.standard_consistent`: which praise and which complaints go together.
-/

namespace CallToAction

/-! ### Two sides of a gap -/

/-- No value passes both of two thresholds. -/
def Threshold.Apart (t t' : Threshold) : Prop := ∀ v, ¬ (t.admits v = true ∧ t'.admits v = true)

/-- A lower bound is apart from every upper bound that does not exceed it. -/
theorem Threshold.Apart.of_le {low high : Float} (h : high ≤ low) :
    Apart ⟨.greater, low⟩ ⟨.less, high⟩ := by
  rintro v ⟨above, below⟩
  have between : low < high := Number.lt_trans (of_decide_eq_true above) (of_decide_eq_true below)
  exact Number.lt_irrefl (Number.lt_of_lt_of_le between h)

namespace Condition

variable {page : Page} (key : Fact)

/-- Conditions with parts on one fact that are apart do not hold together. -/
theorem not_both_of_apart {t t' : Threshold} {parts parts' : List Condition} (apart : t.Apart t')
    (mem : fact key t ∈ parts) (mem' : fact key t' ∈ parts') :
    ¬ ((all parts).evaluate page = .ok true ∧ (all parts').evaluate page = .ok true) := by
  rintro ⟨holds, holds'⟩
  obtain ⟨v, known, admitted⟩ := (evaluate_fact_eq_ok_iff page key t true).1
    ((evaluate_all_eq_true_iff page parts).1 holds _ mem)
  obtain ⟨v', known', admitted'⟩ := (evaluate_fact_eq_ok_iff page key t' true).1
    ((evaluate_all_eq_true_iff page parts').1 holds' _ mem')
  -- both parts have looked at the same value
  cases known.symm.trans known'
  exact apart v ⟨admitted, admitted'⟩

end Condition

/-- How praise and complaints go together in an evaluation of a sheet: `M3` praises the position,
of which `V1` complains; `M4` praises the size and the click rate, of which `C1` and `M2`
complain. -/
structure Evaluation.Consistent (s : FactSheet) (e : Evaluation) : Prop where
  position : ¬ (e.Reports "M3" ∧ e.Reports "V1")
  clickRate : ¬ (e.Reports "M4" ∧ e.Reports "M2")
  size : e.Reports "M4" ∧ e.Reports "C1" ↔
    e.Reports "M4" ∧ ∃ height, s.finite .height = .ok height ∧ height < 44

namespace KnowledgeBase

open Condition

section Standard

variable (s : FactSheet)

/-! ### Praise and complaints about the size -/

theorem reports_praise_iff :
    (standard.evaluate s).Reports "M4" ↔
      (∃ rate, s.finite .clickRate = .ok rate ∧ 5 < rate) ∧
        ∃ width, s.finite .width = .ok width ∧ 200 ≤ width := by
  refine (reports_iff s rfl).trans ?_
  rw [evaluate_all_eq_true_iff]
  simp [moreThan, atLeast, evaluate_fact_eq_ok_iff, Threshold.admits, Comparison.holds,
    Page.ofFacts]

/-- What is praised for its size is found too small for its height. -/
theorem reports_praise_and_small_iff :
    (standard.evaluate s).Reports "M4" ∧ (standard.evaluate s).Reports "C1" ↔
      (standard.evaluate s).Reports "M4" ∧
        ∃ height, s.finite .height = .ok height ∧ height < 44 := by
  refine and_congr_right fun praised => ?_
  obtain ⟨-, width, known, wide⟩ := (reports_praise_iff s).1 praised
  have broad : ¬ width < 180 := fun narrow =>
    absurd (Number.lt_of_le_of_lt wide narrow) (by decide)
  rw [reports_size_iff]
  constructor
  · rintro (⟨width', known', narrow⟩ | ⟨-, low⟩)
    · cases known.symm.trans known'
      exact absurd narrow broad
    · exact low
  · intro low
    exact .inr ⟨⟨width, known, broad⟩, low⟩

/-! ### Which praise and which complaints go together -/

/-- **Praise and complaints about one aspect.**  On no sheet is the position praised and found poor,
or the click rate found good and low.  Where the size is praised, it is found too small just where
the height is known to be low. -/
theorem standard_consistent : (standard.evaluate s).Consistent s where
  position := by
    rintro ⟨optimal, poor⟩
    have apart : Threshold.Apart ⟨.greater, 800⟩ ⟨.less, 500⟩ := .of_le (by decide)
    exact not_both_of_apart .position apart (by simp [moreThan]) (by simp [lessThan])
      ⟨(reports_iff s rfl).1 poor, (reports_iff s rfl).1 optimal⟩
  clickRate := by
    rintro ⟨good, low⟩
    have apart : Threshold.Apart ⟨.greater, 5⟩ ⟨.less, 2⟩ := .of_le (by decide)
    exact not_both_of_apart .clickRate apart (by simp [moreThan]) (by simp [lessThan])
      ⟨(reports_iff s rfl).1 good, (reports_iff s rfl).1 low⟩
  size := reports_praise_and_small_iff s

end Standard

/-- A page whose call to action is often clicked, wide and low. -/
def wideAndLow : FactSheet :=
  FactSheet.defaults.overlay (.ofList [(.clickRate, 6), (.width, 300), (.height, 40)])

/-- Such a call to action is praised for its size and found too small. -/
theorem standard_praises_low :
    wideAndLow.violations = [] ∧ (standard.evaluate wideAndLow).Reports "M4" ∧
      (standard.evaluate wideAndLow).Reports "C1" := by
  refine ⟨by decide +kernel, (reports_iff _ rfl).2 ?_, (reports_iff _ rfl).2 ?_⟩
  · rfl
  · rfl

end KnowledgeBase

end CallToAction
