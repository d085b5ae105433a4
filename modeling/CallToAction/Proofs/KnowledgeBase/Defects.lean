import CallToAction.KnowledgeBase.Standard
import Mathlib.Tactic.SplitIfs

/-!
# Knowledge bases without defects

A knowledge base is accepted when it has no defects: it has rules, each of them is complete, and
their identifiers are all different.  The standard rules are accepted.

* `ruleDefects_eq_nil_iff`: what a rule without defects is like;
* `defects_eq_nil_iff`: what a knowledge base without defects is like;
* `standard_defects`: the standard rules have no defects.
-/

namespace CallToAction

/-- A rule has an identifier and its texts, and a certainty from zero to one. -/
structure Rule.Complete (r : Rule) : Prop where
  id : Text.allBlank r.id = false
  certainty : 0 ≤ r.certainty ∧ r.certainty ≤ 1
  conclusion : Text.allBlank r.conclusion = false
  explanation : Text.allBlank r.explanation = false

namespace KnowledgeBase

theorem ruleDefects_eq_nil_iff (seen : List String) (index : Nat) (r : Rule) :
    ruleDefects seen index r = [] ↔ r.Complete ∧ r.id ∉ seen := by
  have none {p : Prop} [Decidable p] (d : Defect) : (if p then [d] else []) = [] ↔ ¬ p := by
    split_ifs with h <;> simp [h]
  have none' {p : Prop} [Decidable p] (d : Defect) : (if p then [] else [d]) = [] ↔ p := by
    split_ifs with h <;> simp [h]
  have id : (if Text.allBlank r.id then [Defect.blankId index]
      else if seen.contains r.id then [.duplicateId index r.id] else []) = [] ↔
        Text.allBlank r.id = false ∧ r.id ∉ seen := by
    split_ifs with blank used <;> simp_all
  simp only [ruleDefects, List.append_eq_nil_iff, id, none, none', Bool.not_eq_true]
  constructor
  · rintro ⟨⟨⟨⟨named, new⟩, certain⟩, concluded⟩, explained⟩
    exact ⟨⟨named, certain, concluded, explained⟩, new⟩
  · rintro ⟨⟨named, certain, concluded, explained⟩, new⟩
    exact ⟨⟨⟨⟨named, new⟩, certain⟩, concluded⟩, explained⟩

/-- Rules have no defects if each one is complete and their identifiers are all different. -/
theorem defectsFrom_eq_nil_iff (seen : List String) (index : Nat) (rules : List Rule) :
    defectsFrom seen index rules = [] ↔
      (∀ r ∈ rules, r.Complete) ∧ (rules.map Rule.id).Nodup ∧ ∀ r ∈ rules, r.id ∉ seen := by
  induction rules generalizing seen index with
  | nil => simp [defectsFrom]
  | cons first rest ih =>
    rw [defectsFrom, List.append_eq_nil_iff, ruleDefects_eq_nil_iff, ih]
    simp only [List.forall_mem_cons, List.map_cons, List.nodup_cons, List.mem_map, not_exists]
    constructor
    · rintro ⟨⟨complete, new⟩, others, nodup, unseen⟩
      simp only [complete.id, Bool.false_eq_true, if_false, List.mem_cons, not_or] at unseen
      exact ⟨⟨complete, others⟩, ⟨fun r hr => (unseen r hr.1).1 hr.2, nodup⟩, new,
        fun r hr => (unseen r hr).2⟩
    · rintro ⟨⟨complete, others⟩, ⟨apart, nodup⟩, new, unseen⟩
      refine ⟨⟨complete, new⟩, others, nodup, fun r hr => ?_⟩
      simp only [complete.id, Bool.false_eq_true, if_false, List.mem_cons, not_or]
      exact ⟨fun same => apart r ⟨hr, same⟩, unseen r hr⟩

theorem defects_eq_nil_iff (kb : KnowledgeBase) :
    kb.defects = [] ↔
      kb.rules ≠ [] ∧ (∀ r ∈ kb.rules, r.Complete) ∧ (kb.rules.map Rule.id).Nodup := by
  rw [defects, List.append_eq_nil_iff, defectsFrom_eq_nil_iff]
  simp

theorem standard_conclusions :
    ∀ r ∈ standard.rules, Text.allBlank r.conclusion = false := by
  simp only [standard, List.forall_mem_cons]
  refine ⟨?_, ?_, ?_, ?_, ?_, ?_, ?_, ?_, ?_, ?_, ?_, ?_, ?_, ?_, ?_, ?_, List.forall_mem_nil _⟩
  all_goals exact Text.allBlank_ofList_cons _ (by decide)

theorem standard_explanations :
    ∀ r ∈ standard.rules, Text.allBlank r.explanation = false := by
  simp only [standard, List.forall_mem_cons]
  -- five explanations are two texts, of which the first is not blank
  refine ⟨Text.allBlank_append_left ?_ _, ?_, Text.allBlank_append_left ?_ _, ?_, ?_, ?_, ?_, ?_,
    Text.allBlank_append_left ?_ _, ?_, ?_, Text.allBlank_append_left ?_ _, ?_, ?_,
    Text.allBlank_append_left ?_ _, ?_, List.forall_mem_nil _⟩
  all_goals exact Text.allBlank_ofList_cons _ (by decide)

/-- The standard rules have no defects. -/
theorem standard_defects : standard.defects = [] := by
  rw [defects_eq_nil_iff]
  have named : ∀ r ∈ standard.rules, Text.allBlank r.id = false := by decide +kernel
  have certain : ∀ r ∈ standard.rules, 0 ≤ r.certainty ∧ r.certainty ≤ 1 := by decide +kernel
  exact ⟨by simp [standard],
    fun r hr => ⟨named r hr, certain r hr, standard_conclusions r hr, standard_explanations r hr⟩,
    by decide +kernel⟩

end KnowledgeBase

end CallToAction
