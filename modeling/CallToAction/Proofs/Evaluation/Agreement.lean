import CallToAction.KnowledgeBase.Standard
import CallToAction.Proofs.Evaluation.Ranking
import CallToAction.Proofs.Number.Line
import CallToAction.Proofs.Rule.Condition
import CallToAction.Proofs.Score.Factors

/-!
# Findings and scores

The standard rules, the labels and the scores each have bounds of their own for the same facts.
On a valid sheet they agree: a finding about a factor comes with the deduction that fits it, and
the other way round where the rule looks at nothing else.

* `reports_iff`: an identifier of a standard rule is reported where its condition holds;
* `KnowledgeBase.standard_agrees`: how findings and adjustments go together.
-/

namespace CallToAction

/-- A finding with an identifier is reported. -/
def Evaluation.Reports (e : Evaluation) (id : String) : Prop := ∃ r ∈ e.activated, r.id = id

/-- How the findings and the adjustments on one page go together. -/
structure Evaluation.Agrees (s : FactSheet) (e : Evaluation) : Prop where
  contrast : e.Reports "V2" ↔ e.visibility.Records .contrast (-25)
  whitespace : e.Reports "V3" ↔ e.visibility.Records .whitespace (-20)
  ctaCount : e.Reports "V4" ↔ ∃ d, e.visibility.Records .ctaCount d
  color : e.Reports "V5" ↔ e.visibility.Records .color (-10)
  textLength : e.Reports "C2" ↔
    e.clickability.Records .textLength (-15) ∨ e.clickability.Records .textLength (-25)
  distractions : e.Reports "C4" ↔ ∃ d, e.clickability.Records .distractions d
  mobile : e.Reports "C5" ↔ e.clickability.Records .mobile (-15)
  feedback : e.Reports "C6" ↔ e.clickability.Records .feedback (-10)
  below : e.Reports "V1" → e.visibility.Records .position (-30)
  clickRate : e.Reports "M2" → ∃ d < 0, e.visibility.Records .contrast d
  optimal : e.Reports "M3" → ∀ d, e.visibility.Records .position d → 0 ≤ d
  size : e.Reports "C1" → e.clickability.Records .size (-30)
  small : s.get .width ≠ none → e.clickability.Records .size (-30) → e.Reports "C1"

/-! ### Bounds -/

namespace Condition

variable (page : Page) {key : Fact} {bound : Float}

/-- An upper bound that the input default keeps can be read off the facts with input defaults. -/
theorem lessThan_iff (refuses : ¬ key.initial < bound) :
    (lessThan key bound).evaluate page = .ok true ↔ page.facts.getOrInitial key < bound := by
  have keeps : (⟨.less, bound⟩ : Threshold).admits key.initial = false := decide_eq_false refuses
  exact (evaluate_fact_iff_getOrInitial _ keeps).trans decide_eq_true_iff

/-- A lower bound that the input default keeps can be read off the facts with input defaults. -/
theorem moreThan_iff (refuses : ¬ bound < key.initial) :
    (moreThan key bound).evaluate page = .ok true ↔ bound < page.facts.getOrInitial key := by
  have keeps : (⟨.greater, bound⟩ : Threshold).admits key.initial = false :=
    decide_eq_false refuses
  exact (evaluate_fact_iff_getOrInitial _ keeps).trans decide_eq_true_iff

end Condition

/-- A color is similar to others from the bound of the greatest deduction on. -/
theorem Labels.colorUniquenessOf_eq_similar_iff {v : Float} (finite : v.isFinite = true) :
    colorUniquenessOf v = .similar ↔ 2 < v := by
  have zero : (0 : Float).isFinite = true := by decide
  have two : (2 : Float).isFinite = true := by decide
  have positive : Number.value 0 < Number.value 2 := (Number.lt_iff_value zero two).1 (by decide)
  unfold colorUniquenessOf
  split_ifs with unique few
  · rw [Number.beq_iff_value finite zero] at unique
    rw [Number.lt_iff_value two finite, unique]
    exact iff_of_false nofun positive.not_gt
  · exact iff_of_false nofun ((Number.not_lt_iff two finite).2 few)
  · exact iff_of_true rfl ((Number.not_le_iff finite two).1 few)

namespace KnowledgeBase

open Condition Score

section Standard

variable (s : FactSheet)

/-! ### Findings -/

/-- An identifier of one standard rule is reported where the condition of the rule holds. -/
theorem reports_iff {id : String} {c : Condition}
    (rule : (standard.rules.filter fun r => r.id = id).map (·.condition) = [c]) :
    (standard.evaluate s).Reports id ↔ c.evaluate (.ofFacts s) = .ok true := by
  -- identifiers are unique, so the condition is the one that was filtered out
  have conditions (c' : Condition) :
      (∃ r ∈ standard.rules, r.id = id ∧ r.condition = c') ↔ c' = c := by
    have : c' ∈ (standard.rules.filter fun r => r.id = id).map (·.condition) ↔ c' = c := by
      rw [rule, List.mem_singleton]
    simpa [and_assoc] using this
  constructor
  · rintro ⟨r, hr, rid⟩
    obtain ⟨declared, holds⟩ := (mem_activated_iff _ _ _).1 hr
    obtain rfl := (conditions r.condition).1 ⟨r, declared, rid, rfl⟩
    exact holds
  · intro holds
    obtain ⟨r, declared, rid, rfl⟩ := (conditions c).2 rfl
    exact ⟨r, (mem_activated_iff _ _ _).2 ⟨declared, holds⟩, rid⟩

/-! ### Findings on labels -/

theorem reports_color_iff :
    (standard.evaluate s).Reports "V5" ↔ 2 < s.getOrInitial .similarColors := by
  refine (reports_iff s rfl).trans ?_
  rw [evaluate_is, ← Labels.colorUniquenessOf_eq_similar_iff (s.isFinite_getOrInitial _),
    ← Labels.reading_eq_getOrInitial s (by decide)]
  simp [Labels.has, Labels.toList, Page.ofFacts, Labels.ofFacts, eq_comm]

theorem reports_mobile_iff :
    (standard.evaluate s).Reports "C5" ↔
      s.getOrInitial .mobileWidth < 180 ∨ s.getOrInitial .mobileHeight < 48 := by
  refine (reports_iff s rfl).trans ?_
  rw [evaluate_is, ← Number.not_le_iff (by decide) (s.isFinite_getOrInitial _),
    ← Number.not_le_iff (by decide) (s.isFinite_getOrInitial _), ← not_and_or,
    ← Labels.reading_eq_getOrInitial s (by decide), ← Labels.reading_eq_getOrInitial s (by decide)]
  simp [Labels.has, Labels.toList, Page.ofFacts, Labels.ofFacts, imp_iff_not_or]

/-- Of the two valid flags only zero is not positive. -/
theorem reports_feedback_iff (valid : s.violations = []) :
    (standard.evaluate s).Reports "C6" ↔ (s.getOrInitial .loadingAnimation == 0) = true := by
  have read := s.isFinite_getOrInitial .loadingAnimation
  have zero : (0 : Float).isFinite = true := by decide
  have one : (1 : Float).isFinite = true := by decide
  have positive : Number.value 0 < Number.value 1 := (Number.lt_iff_value zero one).1 (by decide)
  have silent : ¬ 0 < s.getOrInitial .loadingAnimation ↔
      (s.getOrInitial .loadingAnimation == 0) = true := by
    rw [Number.lt_iff_value zero read, Number.beq_iff_value read zero]
    rcases FactSheet.flag_getOrInitial valid with flag | flag
    · rw [Number.beq_iff_value read zero] at flag
      simp [flag]
    · rw [Number.beq_iff_value read one] at flag
      simp [flag, positive, positive.ne']
  refine (reports_iff s rfl).trans ?_
  rw [evaluate_is, ← silent, ← Labels.reading_eq_getOrInitial s (by decide)]
  simp [Labels.has, Labels.toList, Page.ofFacts, Labels.ofFacts]

/-! ### Findings on several facts -/

theorem reports_position (h : (standard.evaluate s).Reports "V1") :
    800 < s.getOrInitial .position := by
  have holds := (evaluate_all_eq_true_iff _ _).1 ((reports_iff s rfl).1 h)
  exact (moreThan_iff (.ofFacts s) (by decide)).1 (holds _ (by simp))

theorem reports_clickRate (h : (standard.evaluate s).Reports "M2") :
    s.getOrInitial .contrast < 4 := by
  have holds := (evaluate_all_eq_true_iff _ _).1 ((reports_iff s rfl).1 h)
  exact (lessThan_iff (.ofFacts s) (by decide)).1 (holds _ (by simp))

theorem reports_optimal (h : (standard.evaluate s).Reports "M3") :
    s.getOrInitial .position < 500 := by
  have holds := (evaluate_all_eq_true_iff _ _).1 ((reports_iff s rfl).1 h)
  exact (lessThan_iff (.ofFacts s) (by decide)).1 (holds _ (by simp))

/-- The height is looked at where the width is known and large enough. -/
theorem reports_size_iff :
    (standard.evaluate s).Reports "C1" ↔
      (∃ width, s.finite .width = .ok width ∧ width < 180) ∨
        (∃ width, s.finite .width = .ok width ∧ ¬ width < 180) ∧
          ∃ height, s.finite .height = .ok height ∧ height < 44 := by
  refine (reports_iff s rfl).trans ?_
  rw [evaluate_any, evaluateAny_cons_eq_ok_iff, evaluateAny_cons_eq_ok_iff]
  simp [lessThan, evaluate_fact_eq_ok_iff, Threshold.admits, Comparison.holds, Page.ofFacts,
    or_comm]

theorem reports_size (h : (standard.evaluate s).Reports "C1") :
    s.getOrInitial .width < 180 ∨ s.getOrInitial .height < 44 := by
  rcases (reports_size_iff s).1 h with ⟨width, known, narrow⟩ | ⟨-, height, known, low⟩
  · rw [FactSheet.getOrInitial_of_finite s _ known]
    exact .inl narrow
  · rw [FactSheet.getOrInitial_of_finite s _ known]
    exact .inr low

/-- A width that is known does not keep a low height from being looked at. -/
theorem reports_size_of_width (valid : s.violations = []) (known : s.get .width ≠ none)
    (h : s.getOrInitial .width < 180 ∨ s.getOrInitial .height < 44) :
    (standard.evaluate s).Reports "C1" := by
  obtain ⟨w, hw⟩ := Option.ne_none_iff_exists'.1 known
  have finite : s.finite .width = .ok w := FactSheet.finite_of_get valid hw
  rw [FactSheet.getOrInitial_of_finite s _ finite] at h
  refine (reports_size_iff s).2 ?_
  by_cases narrow : w < 180
  · exact .inl ⟨w, finite, narrow⟩
  · -- the default of the height is not low, so a low height is known
    obtain ⟨height, known', low⟩ := (evaluate_fact_eq_ok_iff _ _ _ _).1
      ((lessThan_iff (.ofFacts s) (by decide)).2 (h.resolve_left narrow))
    exact .inr ⟨⟨w, finite, narrow⟩, height, known', of_decide_eq_true low⟩

/-! ### The agreement -/

/-- **Findings and scores agree.**  On a valid sheet, complete or not, a standard rule that looks at
one factor is reported where this factor costs as much as the finding says. -/
theorem standard_agrees (valid : s.violations = []) : (standard.evaluate s).Agrees s where
  contrast := by
    have recorded := (visibility_records_iff s .contrast (by decide) _).trans (contrast_eq_iff s)
    exact ((reports_iff s rfl).trans (lessThan_iff (.ofFacts s) (by decide))).trans recorded.symm
  whitespace := by
    have recorded :=
      (visibility_records_iff s .whitespace (by decide) _).trans (whitespace_eq_iff s)
    exact ((reports_iff s rfl).trans (lessThan_iff (.ofFacts s) (by decide))).trans recorded.symm
  ctaCount := by
    have recorded := (exists_congr (visibility_records_iff s .ctaCount (by decide))).trans
      (exists_ctaCount_iff s)
    exact ((reports_iff s rfl).trans (moreThan_iff (.ofFacts s) (by decide))).trans recorded.symm
  color := by
    have recorded := (visibility_records_iff s .color (by decide) _).trans (color_eq_iff s)
    exact (reports_color_iff s).trans recorded.symm
  textLength := by
    have recorded := clickability_records_iff s .textLength (by decide)
    have deduction := (or_congr (recorded _) (recorded _)).trans (textLength_eq_iff s)
    exact ((reports_iff s rfl).trans (moreThan_iff (.ofFacts s) (by decide))).trans deduction.symm
  distractions := by
    have recorded := (exists_congr (clickability_records_iff s .distractions (by decide))).trans
      (exists_distractions_iff s)
    exact ((reports_iff s rfl).trans (moreThan_iff (.ofFacts s) (by decide))).trans recorded.symm
  mobile := by
    have recorded := (clickability_records_iff s .mobile (by decide) _).trans (mobile_eq_iff s)
    exact (reports_mobile_iff s).trans recorded.symm
  feedback := by
    have recorded :=
      (clickability_records_iff s .feedback (by decide) _).trans (feedback_eq_iff s)
    exact (reports_feedback_iff s valid).trans recorded.symm
  below h := by
    have earned := (position_eq_iff s).2 (reports_position s h)
    exact (visibility_records_iff s .position (by decide) _).2 earned
  clickRate h := by
    have weak : s.getOrInitial .contrast < 4.5 :=
      Number.lt_trans (reports_clickRate s h) (by decide)
    obtain ⟨d, negative, earned⟩ := (exists_contrast_iff s).2 weak
    exact ⟨d, negative, (visibility_records_iff s .contrast (by decide) d).2 earned⟩
  optimal h d recorded := by
    have high := reports_optimal s h
    by_contra negative
    have earned := (visibility_records_iff s .position (by decide) d).1 recorded
    have low := (exists_position_iff s).1 ⟨d, not_le.1 negative, earned⟩
    exact absurd (Number.lt_trans low high) (by decide)
  size h := by
    have earned := (size_eq_iff s).2 (reports_size s h)
    exact (clickability_records_iff s .size (by decide) _).2 earned
  small known recorded := by
    have earned := (clickability_records_iff s .size (by decide) _).1 recorded
    exact reports_size_of_width s valid known ((size_eq_iff s).1 earned)

/-- A page with a faint call to action of known width, not complete. -/
theorem standard_agrees_faint :
    let s := FactSheet.ofList [(.contrast, 2.5), (.width, 150), (.scrollDepth, 40),
      (.position, 900), (.loadingAnimation, 0)]
    s.violations = [] ∧ (standard.evaluate s).Agrees s :=
  ⟨by decide +kernel, standard_agrees _ (by decide +kernel)⟩

end Standard

end KnowledgeBase

end CallToAction
