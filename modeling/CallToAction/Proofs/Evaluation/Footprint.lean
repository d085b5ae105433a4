import CallToAction.Proofs.Evaluation.Ranking
import CallToAction.Proofs.Rule.Condition
import CallToAction.Proofs.Score.Factors

/-!
# What an evaluation depends on

The footprint of a condition is the facts that it tests, together with the facts from which the
labels that it tests are derived.  Sheets that agree on a footprint lead to the same outcome, errors
included, whatever else they hold.  Labels that are not tested are derived all the same; they read
their own facts only, and nothing of them is seen.

* `FactSheet.AgreeOn`: two sheets hold the same of some facts;
* `Label.inputs`, `Condition.footprint`, `Factor.inputs`: what labels, conditions and factors read;
* `Labels.has_congr`, `Condition.evaluate_congr`, `Score.adjustment?_congr`: nothing else is read;
* `KnowledgeBase.evaluate_footprint`: the whole, for rules, knowledge bases and scores.
-/

namespace CallToAction

/-! ### Agreement -/

namespace FactSheet

/-- Two sheets have the same value, or both none, for each of some facts. -/
def AgreeOn (keys : List Fact) (s t : FactSheet) : Prop := ∀ key ∈ keys, s.get key = t.get key

instance (keys : List Fact) (s t : FactSheet) : Decidable (AgreeOn keys s t) :=
  inferInstanceAs (Decidable (∀ key ∈ keys, s.get key = t.get key))

section Reading

variable {keys more : List Fact} {key : Fact} {s t : FactSheet}

theorem AgreeOn.subset (agree : AgreeOn keys s t) (h : more ⊆ keys) : AgreeOn more s t :=
  fun key hk => agree key (h hk)

theorem AgreeOn.finite (agree : AgreeOn keys s t) (hk : key ∈ keys) :
    s.finite key = t.finite key := by
  rw [FactSheet.finite, FactSheet.finite, agree key hk]

theorem AgreeOn.getOrInitial (agree : AgreeOn keys s t) (hk : key ∈ keys) :
    s.getOrInitial key = t.getOrInitial key := by
  rw [FactSheet.getOrInitial, FactSheet.getOrInitial, agree key hk]

theorem AgreeOn.reading (agree : AgreeOn keys s t) (hk : key ∈ keys) :
    Labels.reading s key = Labels.reading t key := by
  rw [Labels.reading, Labels.reading, agree key hk]

end Reading

end FactSheet

open FactSheet (AgreeOn)

/-! ### Labels -/

/-- The facts from which a label is derived. -/
def Label.inputs : Label → List Fact
  | contentLength _ => [.wordCount]
  | textClarity _ => [.textLength]
  | colorUniqueness _ => [.similarColors]
  | visualHierarchy _ => [.width, .height, .largestOther]
  | mobileFriendly _ => [.mobileWidth, .mobileHeight]
  | loadingFeedback _ => [.loadingAnimation]

namespace Labels

/-- A label is found where its own aspect has its value. -/
theorem has_iff (ls : Labels) (label : Label) :
    ls.has label = true ↔
      match label with
      | .contentLength v => ls.contentLength = v
      | .textClarity v => ls.textClarity = v
      | .colorUniqueness v => ls.colorUniqueness = v
      | .visualHierarchy v => ls.visualHierarchy = v
      | .mobileFriendly v => ls.mobileFriendly = v
      | .loadingFeedback v => ls.loadingFeedback = v := by
  cases label <;> simp [has, toList, eq_comm]

/-- A label is found or not by its inputs. -/
theorem has_congr {label : Label} {s t : FactSheet} (agree : AgreeOn label.inputs s t) :
    (ofFacts s).has label = (ofFacts t).has label := by
  have read (key : Fact) (hk : key ∈ label.inputs) : reading s key = reading t key :=
    agree.reading hk
  rw [Bool.eq_iff_iff, has_iff, has_iff]
  cases label with
  | contentLength v => simp only [ofFacts, read .wordCount (by simp [Label.inputs])]
  | textClarity v => simp only [ofFacts, read .textLength (by simp [Label.inputs])]
  | colorUniqueness v => simp only [ofFacts, read .similarColors (by simp [Label.inputs])]
  | visualHierarchy v =>
    simp only [ofFacts, read .width (by simp [Label.inputs]), read .height (by simp [Label.inputs]),
      read .largestOther (by simp [Label.inputs])]
  | mobileFriendly v =>
    simp only [ofFacts, read .mobileWidth (by simp [Label.inputs]),
      read .mobileHeight (by simp [Label.inputs])]
  | loadingFeedback v => simp only [ofFacts, read .loadingAnimation (by simp [Label.inputs])]

end Labels

/-! ### Conditions -/

namespace Condition

/-- The facts that a condition tests, and those from which the labels that it tests are derived. -/
def footprint (c : Condition) : List Fact := c.facts ++ c.labels.flatMap Label.inputs

section Congruence

variable {p q : Page}

mutual

/-- Pages that agree on the facts and on the labels of a condition lead to one outcome. -/
theorem evaluate_congr (c : Condition)
    (known : ∀ key ∈ c.facts, p.facts.finite key = q.facts.finite key)
    (found : ∀ label ∈ c.labels, p.labels.has label = q.labels.has label) :
    c.evaluate p = c.evaluate q := by
  cases c with
  | fact key threshold => rw [evaluate, evaluate, known key (by simp [facts])]
  | is label => rw [evaluate_is, evaluate_is, found label (by simp [labels])]
  | all parts =>
    rw [evaluate_all, evaluate_all]
    exact evaluateAll_congr_of_facts parts (by simpa only [facts] using known)
      (by simpa only [labels] using found)
  | any parts =>
    rw [evaluate_any, evaluate_any]
    exact evaluateAny_congr_of_facts parts (by simpa only [facts] using known)
      (by simpa only [labels] using found)

theorem evaluateAll_congr_of_facts (parts : List Condition)
    (known : ∀ key ∈ partFacts parts, p.facts.finite key = q.facts.finite key)
    (found : ∀ label ∈ partLabels parts, p.labels.has label = q.labels.has label) :
    evaluateAll p parts = evaluateAll q parts := by
  cases parts with
  | nil => rw [evaluateAll_nil, evaluateAll_nil]
  | cons part rest =>
    simp only [partFacts, partLabels, List.mem_append] at known found
    have first : part.evaluate p = part.evaluate q :=
      evaluate_congr part (fun key hk => known key (.inl hk)) fun label hl => found label (.inl hl)
    have later : evaluateAll p rest = evaluateAll q rest :=
      evaluateAll_congr_of_facts rest (fun key hk => known key (.inr hk))
        fun label hl => found label (.inr hl)
    rw [evaluateAll_cons, evaluateAll_cons, first, later]

theorem evaluateAny_congr_of_facts (parts : List Condition)
    (known : ∀ key ∈ partFacts parts, p.facts.finite key = q.facts.finite key)
    (found : ∀ label ∈ partLabels parts, p.labels.has label = q.labels.has label) :
    evaluateAny p parts = evaluateAny q parts := by
  cases parts with
  | nil => rw [evaluateAny_nil, evaluateAny_nil]
  | cons part rest =>
    simp only [partFacts, partLabels, List.mem_append] at known found
    have first : part.evaluate p = part.evaluate q :=
      evaluate_congr part (fun key hk => known key (.inl hk)) fun label hl => found label (.inl hl)
    have later : evaluateAny p rest = evaluateAny q rest :=
      evaluateAny_congr_of_facts rest (fun key hk => known key (.inr hk))
        fun label hl => found label (.inr hl)
    rw [evaluateAny_cons, evaluateAny_cons, first, later]

end

/-- Sheets that agree on the footprint of a condition lead to one outcome. -/
theorem evaluate_of_agreeOn {c : Condition} {s t : FactSheet} (agree : AgreeOn c.footprint s t) :
    c.evaluate (.ofFacts s) = c.evaluate (.ofFacts t) := by
  refine evaluate_congr c (fun key hk => ?_) fun label hl => ?_
  · exact agree.finite (List.mem_append_left _ hk)
  · have inputs : label.inputs ⊆ c.footprint := fun key hk =>
      List.mem_append_right _ (List.mem_flatMap.2 ⟨label, hl, hk⟩)
    exact Labels.has_congr (agree.subset inputs)

end Congruence

end Condition

/-! ### Scores -/

/-- The facts that a factor reads. -/
def Factor.inputs : Factor → List Fact
  | position => [.position]
  | contrast => [.contrast]
  | whitespace => [.whitespace]
  | ctaCount => [.ctaCount]
  | color => [.similarColors]
  | size => [.width, .height]
  | textLength => [.textLength]
  | distractions => [.elementsBefore]
  | mobile => [.mobileWidth, .mobileHeight]
  | feedback => [.loadingAnimation]

namespace Score

section Congruence

variable {s t : FactSheet}

theorem tiered_congr {key : Fact} (factor : Factor) (tiers : List Tier)
    (agree : AgreeOn [key] s t) : tiered factor key tiers s = tiered factor key tiers t := by
  simp only [tiered, agree.getOrInitial (List.mem_singleton_self key)]

/-- A factor adjusts by its inputs. -/
theorem adjustment?_congr (factor : Factor) (agree : AgreeOn factor.inputs s t) :
    adjustment? factor s = adjustment? factor t := by
  have read (key : Fact) (hk : key ∈ factor.inputs) : s.getOrInitial key = t.getOrInitial key :=
    agree.getOrInitial hk
  cases factor with
  | size =>
    simp only [adjustment?, size, read .width (by simp [Factor.inputs]),
      read .height (by simp [Factor.inputs])]
  | mobile =>
    have width : AgreeOn [.mobileWidth] s t := agree.subset (by simp [Factor.inputs])
    have tiers := tiered_congr .mobile [.below 200 (-8)] width
    simp only [adjustment?, mobile, read .mobileWidth (by simp [Factor.inputs]),
      read .mobileHeight (by simp [Factor.inputs]), tiers]
  | feedback =>
    simp only [adjustment?, feedback, read .loadingAnimation (by simp [Factor.inputs])]
  | _ => exact tiered_congr _ _ agree

/-- The adjustments of some factors depend on the inputs of these factors alone. -/
theorem filterMap_adjustment?_congr {factors : List Factor}
    (agree : AgreeOn (factors.flatMap Factor.inputs) s t) :
    factors.filterMap (adjustment? · s) = factors.filterMap (adjustment? · t) := by
  refine List.filterMap_congr fun factor hf => adjustment?_congr factor (agree.subset ?_)
  exact fun key hk => List.mem_flatMap.2 ⟨factor, hf, hk⟩

theorem visibility_congr (agree : AgreeOn (visibilityFactors.flatMap Factor.inputs) s t) :
    visibility s = visibility t := by
  rw [visibility_eq, visibility_eq, filterMap_adjustment?_congr agree]

theorem clickability_congr (agree : AgreeOn (clickabilityFactors.flatMap Factor.inputs) s t) :
    clickability s = clickability t := by
  rw [clickability_eq, clickability_eq, filterMap_adjustment?_congr agree]

end Congruence

end Score

/-! ### Evaluations -/

theorem Rule.outcome_of_agreeOn {r : Rule} {s t : FactSheet}
    (agree : AgreeOn r.condition.footprint s t) :
    r.outcome (.ofFacts s) = r.outcome (.ofFacts t) := by
  rw [Rule.outcome, Rule.outcome, Condition.evaluate_of_agreeOn agree]

namespace KnowledgeBase

variable {kb : KnowledgeBase} {s t : FactSheet}

/-- Where all rules have the same outcomes, the same of them are activated, in the same order. -/
theorem activated_of_outcome
    (same : ∀ r ∈ kb.rules, r.outcome (.ofFacts s) = r.outcome (.ofFacts t)) :
    (kb.evaluate s).activated = (kb.evaluate t).activated := by
  have selected : kb.rules.filter (fun r => r.outcome (.ofFacts s) = .activated) =
      kb.rules.filter fun r => r.outcome (.ofFacts t) = .activated :=
    List.filter_congr fun r hr => by rw [same r hr]
  simp only [evaluate, selected]

theorem failed_of_outcome
    (same : ∀ r ∈ kb.rules, r.outcome (.ofFacts s) = r.outcome (.ofFacts t)) :
    (kb.evaluate s).failed = (kb.evaluate t).failed := by
  simp only [evaluate]
  exact List.filterMap_congr fun r hr => by rw [Rule.error?, Rule.error?, same r hr]

/-- **Facts outside of a footprint have no influence.**  Sheets that agree on the footprint of a
rule lead to the same outcome of the rule, with the same error if there is one.  Sheets that agree
on the footprints of all rules lead to the same findings, failures, certainty and recommendations.
The breakdown of each score depends on no facts but those that are listed here. -/
theorem evaluate_footprint (s t : FactSheet) :
    (∀ r : Rule, AgreeOn r.condition.footprint s t →
        r.outcome (.ofFacts s) = r.outcome (.ofFacts t)) ∧
      (∀ kb : KnowledgeBase, (∀ r ∈ kb.rules, AgreeOn r.condition.footprint s t) →
        (kb.evaluate s).activated = (kb.evaluate t).activated ∧
          (kb.evaluate s).failed = (kb.evaluate t).failed ∧
          (kb.evaluate s).certainty = (kb.evaluate t).certainty ∧
          (kb.evaluate s).recommendations = (kb.evaluate t).recommendations) ∧
      (AgreeOn [.position, .contrast, .whitespace, .ctaCount, .similarColors] s t →
        Score.visibility s = Score.visibility t) ∧
      (AgreeOn [.width, .height, .textLength, .elementsBefore, .mobileWidth, .mobileHeight,
          .loadingAnimation] s t →
        Score.clickability s = Score.clickability t) := by
  refine ⟨fun r => Rule.outcome_of_agreeOn, fun kb agree => ?_, Score.visibility_congr,
    Score.clickability_congr⟩
  have same : ∀ r ∈ kb.rules, r.outcome (.ofFacts s) = r.outcome (.ofFacts t) :=
    fun r hr => Rule.outcome_of_agreeOn (agree r hr)
  have findings := activated_of_outcome same
  refine ⟨findings, failed_of_outcome same, ?_, ?_⟩
  · rw [Evaluation.certainty, Evaluation.certainty, findings]
  · rw [Evaluation.recommendations, Evaluation.recommendations, findings]

/-- A rule that fails behind a label.  The sheets differ in three facts, one of which is not a
number, and agree on the facts of the rule and of the scores. -/
theorem evaluate_footprint_failed :
    let r : Rule :=
      { id := "H", priority := 1, certainty := 0.5
        condition := .all [.is (.visualHierarchy .strong), .fact .scrollDepth ⟨.less, 50⟩]
        conclusion := "hidden", explanation := "", category := .visibility }
    let s : FactSheet :=
      .ofList [(.width, 100), (.height, 40), (.wordCount, 900), (.clickRate, 0 / 0)]
    let t : FactSheet := .ofList [(.width, 100), (.height, 40), (.timeToCta, 3)]
    r.outcome (.ofFacts s) = .failed (.missing .scrollDepth) ∧
      r.outcome (.ofFacts t) = .failed (.missing .scrollDepth) ∧
      (Labels.ofFacts s).contentLength ≠ (Labels.ofFacts t).contentLength ∧
      (evaluate ⟨[r]⟩ s).failed = (evaluate ⟨[r]⟩ t).failed ∧
      Score.visibility s = Score.visibility t ∧ Score.clickability s = Score.clickability t := by
  intro r s t
  have agree : AgreeOn r.condition.footprint s t := by decide +kernel
  obtain ⟨rule, base, visible, clickable⟩ := evaluate_footprint s t
  have failed : r.outcome (.ofFacts s) = .failed (.missing .scrollDepth) := by decide +kernel
  have all : ∀ r' ∈ (⟨[r]⟩ : KnowledgeBase).rules, AgreeOn r'.condition.footprint s t :=
    fun r' hr => List.mem_singleton.1 hr ▸ agree
  exact ⟨failed, (rule r agree).symm.trans failed, by decide +kernel, (base ⟨[r]⟩ all).2.1,
    visible (by decide +kernel), clickable (by decide +kernel)⟩

end KnowledgeBase

end CallToAction
