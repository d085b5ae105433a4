import CallToAction.KnowledgeBase.Standard
import CallToAction.Proofs.Evaluation.Ranking
import CallToAction.Proofs.FactSheet.Filling
import CallToAction.Proofs.Number.Line
import CallToAction.Proofs.Score.Factors

/-!
# What filling in input defaults changes

Scores read every fact with its input default, so filling in changes no score.  Labels do so too
but for the largest other element, which is taken to be small where it is absent; filling in makes
the visual hierarchy weaker at most.  No finding is lost, and a new one comes from the weaker
hierarchy or from a rule that had failed.

* `Score.visibility_filled`, `Score.clickability_filled`, `Labels.ofFacts_filled`: scores and
  labels;
* `standard_labels`, `standard_guarded`: what the standard rules have in common;
* `KnowledgeBase.evaluate_filled`: everything that filling in changes under the standard rules.
-/

namespace CallToAction

/-! ### Scores -/

namespace Score

variable (s : FactSheet)

theorem tiered_filled (factor : Factor) (key : Fact) (tiers : List Tier) :
    tiered factor key tiers s.filled = tiered factor key tiers s := by
  simp only [tiered, FactSheet.getOrInitial_filled]

/-- Every factor reads the facts with their input defaults. -/
theorem adjustment?_filled (factor : Factor) :
    adjustment? factor s.filled = adjustment? factor s := by
  cases factor with
  | size => simp only [adjustment?, size, FactSheet.getOrInitial_filled]
  | mobile => simp only [adjustment?, mobile, FactSheet.getOrInitial_filled, tiered_filled]
  | feedback => simp only [adjustment?, feedback, FactSheet.getOrInitial_filled]
  | _ => exact tiered_filled s _ _ _

theorem visibility_filled : visibility s.filled = visibility s := by
  simp only [visibility_eq, adjustment?_filled]

theorem clickability_filled : clickability s.filled = clickability s := by
  simp only [clickability_eq, adjustment?_filled]

end Score

/-! ### Labels -/

/-- How strong a visual hierarchy is. -/
def VisualHierarchy.strength : VisualHierarchy → ℕ
  | weak => 0
  | medium => 1
  | strong => 2

namespace Labels

variable (s : FactSheet)

theorem reading_filled_of_ne (key : Fact) (h : key ≠ .largestOther) :
    reading s.filled key = reading s key := by
  rw [reading_eq_getOrInitial _ h, reading_eq_getOrInitial _ h, FactSheet.getOrInitial_filled]

/-- A value of the largest other element hides the input default, also where it is not finite. -/
theorem reading_filled_of_isSome {key : Fact} (h : s.get key ≠ none) :
    reading s.filled key = reading s key := by
  obtain ⟨v, hv⟩ := Option.ne_none_iff_exists'.1 h
  simp only [reading, FactSheet.get_filled, hv, Option.some_or]

theorem reading_largestOther_of_absent (h : s.get .largestOther = none) :
    reading s .largestOther = 150 ∧ reading s.filled .largestOther = 8000 := by
  have finite : (8000 : Float).isFinite = true := by decide
  simp [reading, h, fallback, Fact.initial, finite]

/-- Beside the input default of the largest other element no hierarchy is stronger than beside its
fallback: an area that exceeds even 1.1 times the former exceeds 1.5 times the latter. -/
theorem strength_visualHierarchyOf_le (area : Float) :
    (visualHierarchyOf area 8000).strength ≤ (visualHierarchyOf area 150).strength := by
  have strong : (150 : Float) * 1.5 < 8000 * 1.5 := by decide
  have medium : (150 : Float) * 1.5 < 8000 * 1.1 := by decide
  unfold visualHierarchyOf
  by_cases h₁ : (8000 : Float) * 1.5 < area
  · rw [if_pos h₁, if_pos (Number.lt_trans strong h₁)]
  · by_cases h₂ : (8000 : Float) * 1.1 < area
    · rw [if_neg h₁, if_pos h₂, if_pos (Number.lt_trans medium h₂)]
      decide
    · rw [if_neg h₁, if_neg h₂]
      exact Nat.zero_le _

theorem strength_ofFacts_filled_le :
    (ofFacts s.filled).visualHierarchy.strength ≤ (ofFacts s).visualHierarchy.strength := by
  simp only [ofFacts]
  rw [reading_filled_of_ne s .width (by decide), reading_filled_of_ne s .height (by decide)]
  by_cases h : s.get .largestOther = none
  · obtain ⟨small, large⟩ := reading_largestOther_of_absent s h
    rw [small, large]
    exact strength_visualHierarchyOf_le _
  · rw [reading_filled_of_isSome s h]

/-- Five of the six labels are the same. -/
theorem ofFacts_filled :
    ofFacts s.filled =
      { ofFacts s with visualHierarchy := (ofFacts s.filled).visualHierarchy } := by
  have same (key : Fact) (h : key ≠ .largestOther) : reading s.filled key = reading s key :=
    reading_filled_of_ne s key h
  simp only [ofFacts, same .wordCount (by decide), same .textLength (by decide),
    same .similarColors (by decide), same .mobileWidth (by decide),
    same .mobileHeight (by decide), same .loadingAnimation (by decide)]

theorem absent_of_visualHierarchy_ne
    (h : (ofFacts s.filled).visualHierarchy ≠ (ofFacts s).visualHierarchy) :
    s.get .largestOther = none := by
  by_contra present
  apply h
  simp only [ofFacts]
  rw [reading_filled_of_ne s .width (by decide), reading_filled_of_ne s .height (by decide),
    reading_filled_of_isSome s present]

/-- A label of another aspect than the visual hierarchy is found on both sheets or on neither. -/
theorem has_ofFacts_filled {label : Label} (h : ∀ v, label ≠ .visualHierarchy v) :
    (ofFacts s).has label = (ofFacts s.filled).has label := by
  rw [ofFacts_filled]
  cases label with
  | visualHierarchy v => exact absurd rfl (h v)
  | _ => simp [has, toList]

theorem has_weak_iff (ls : Labels) :
    ls.has (.visualHierarchy .weak) = true ↔ ls.visualHierarchy.strength = 0 := by
  cases h : ls.visualHierarchy <;> simp [has, toList, h, VisualHierarchy.strength]

end Labels

/-! ### Rules -/

namespace KnowledgeBase

/-- Only one of the standard rules tests the visual hierarchy. -/
theorem standard_labels : ∀ r ∈ standard.rules,
    r.id = "V6" ∧ r.condition = .is (.visualHierarchy .weak) ∨
      ∀ label ∈ r.condition.labels, ∀ v, label ≠ .visualHierarchy v := by
  simp [standard, Condition.labels, Condition.partLabels, Condition.lessThan,
    Condition.moreThan, Condition.atLeast]

/-- All standard rules but two are guarded against input defaults. -/
theorem standard_guarded : ∀ r ∈ standard.rules,
    r.id = "C1" ∨ r.id = "M4" ∨ r.condition.guarded = true := by
  decide

section Standard

variable (s : FactSheet) {r : Rule}

/-- A standard rule that holds still holds after filling in. -/
theorem evaluate_filled_of_evaluate (hr : r ∈ standard.rules)
    (h : r.condition.evaluate (.ofFacts s) = .ok true) :
    r.condition.evaluate (.ofFacts s.filled) = .ok true := by
  rcases standard_labels r hr with ⟨-, weak⟩ | others
  · -- the hierarchy was weak before, and a weaker one there is not
    rw [weak, Condition.evaluate_is] at h ⊢
    have found : (Labels.ofFacts s).has (.visualHierarchy .weak) = true := Except.ok.inj h
    have : (Labels.ofFacts s.filled).has (.visualHierarchy .weak) = true := by
      rw [Labels.has_weak_iff] at found ⊢
      exact Nat.le_zero.1 (found ▸ Labels.strength_ofFacts_filled_le s)
    exact congrArg Except.ok this
  · exact Condition.evaluate_mono s.within_filled r.condition
      (fun label hl => Labels.has_ofFacts_filled s (others label hl)) h

/-- A standard rule that holds only after filling in tests the visual hierarchy, or it had
failed. -/
theorem failed_of_evaluate_filled (hr : r ∈ standard.rules)
    (h : r.condition.evaluate (.ofFacts s.filled) = .ok true)
    (before : r.condition.evaluate (.ofFacts s) ≠ .ok true) :
    (r.id = "C1" ∨ r.id = "M4") ∧ (∃ e, r.condition.evaluate (.ofFacts s) = .error e) ∨
      r.id = "V6" := by
  rcases standard_labels r hr with ⟨id, -⟩ | others
  · exact .inr id
  · have same : ∀ label ∈ r.condition.labels,
        (Labels.ofFacts s).has label = (Labels.ofFacts s.filled).has label :=
      fun label hl => Labels.has_ofFacts_filled s (others label hl)
    refine .inl ⟨?_, ?_⟩
    · -- a guarded rule would have held before
      rcases standard_guarded r hr with id | id | guarded
      · exact .inl id
      · exact .inr id
      · have filled : (Page.ofFacts s.filled).facts.FilledFrom (Page.ofFacts s).facts :=
          s.filledFrom_filled
        exact absurd (Condition.evaluate_of_guarded filled r.condition guarded same h) before
    · -- a rule that was idle before would be idle after
      cases outcome : r.condition.evaluate (.ofFacts s) with
      | error e => exact ⟨e, rfl⟩
      | ok b =>
        cases b with
        | true => exact absurd outcome before
        | false =>
          have within : (Page.ofFacts s).facts.Within (Page.ofFacts s.filled).facts :=
            s.within_filled
          cases h.symm.trans (Condition.evaluate_mono within r.condition same outcome)

end Standard

/-- **Filling in input defaults changes no score and loses no finding.**  Only the visual hierarchy
can change, where the largest other element is absent, and it becomes weaker then.  A new finding is
that of the weak hierarchy, or one of the two rules that can fail on a fact and hold by its
default. -/
theorem evaluate_filled (s : FactSheet) :
    let before := standard.evaluate s
    let after := standard.evaluate s.filled
    after.visibility = before.visibility ∧ after.clickability = before.clickability ∧
      after.labels =
        { before.labels with visualHierarchy := after.labels.visualHierarchy } ∧
      (after.labels.visualHierarchy ≠ before.labels.visualHierarchy →
        s.get .largestOther = none) ∧
      after.labels.visualHierarchy.strength ≤ before.labels.visualHierarchy.strength ∧
      before.activated.Sublist after.activated ∧
      ∀ r ∈ after.activated, r ∉ before.activated →
        (r.id = "C1" ∨ r.id = "M4") ∧ (∃ e, (r, e) ∈ before.failed) ∨ r.id = "V6" := by
  intro before after
  refine ⟨Score.visibility_filled s, Score.clickability_filled s, Labels.ofFacts_filled s,
    Labels.absent_of_visualHierarchy_ne s, Labels.strength_ofFacts_filled_le s,
    activated_sublist _ fun r hr => evaluate_filled_of_evaluate s hr, ?_⟩
  intro r hr new
  obtain ⟨declared, holds⟩ := (mem_activated_iff _ _ _).1 hr
  have idle : r.condition.evaluate (.ofFacts s) ≠ .ok true :=
    fun h => new ((mem_activated_iff _ _ _).2 ⟨declared, h⟩)
  rcases failed_of_evaluate_filled s declared holds idle with ⟨id, e, failed⟩ | id
  · exact .inl ⟨id, e, (mem_failed_iff _ _ _ _).2 ⟨declared, failed⟩⟩
  · exact .inr id

end KnowledgeBase

end CallToAction
