import CallToAction.Rule.Basic

/-!
# Knowledge bases

A knowledge base is an ordered list of rules.  The order of declaration breaks ties between rules
of equal priority.

`KnowledgeBase.defects` reports everything that is wrong with a knowledge base: no rules at all,
blank texts, an identifier that was used before, a certainty outside of 0 to 1.  A blank identifier
counts as blank and never as used before.
-/

namespace CallToAction

/-- Rules in the order of their declaration. -/
structure KnowledgeBase where
  rules : List Rule

/-- Something wrong with a knowledge base; rules are numbered from zero. -/
inductive Defect
  | noRules
  | blankId (index : Nat)
  | duplicateId (index : Nat) (id : String)
  | certaintyRange (index : Nat) (id : String) (certainty : Float)
  | blankConclusion (index : Nat) (id : String)
  | blankExplanation (index : Nat) (id : String)
  deriving DecidableEq

/-- The wording of a defect. -/
def Defect.message : Defect → String
  | noRules => "knowledge base: contains no rules"
  | blankId i => s!"rules[{Nat.repr i}].id: must not be empty"
  | duplicateId i id => s!"rules[{Nat.repr i}].id: duplicate id '{id}'"
  | certaintyRange i id c =>
    s!"rules[{Nat.repr i}] ({id}).certainty: must be within [0, 1] (got {Number.text c})"
  | blankConclusion i id => s!"rules[{Nat.repr i}] ({id}).conclusion: must not be empty"
  | blankExplanation i id => s!"rules[{Nat.repr i}] ({id}).explanation: must not be empty"

namespace KnowledgeBase

/-- The first rule with an identifier. -/
def get? (kb : KnowledgeBase) (id : String) : Option Rule := kb.rules.find? fun r => r.id = id

/-- The rules that speak to a score. -/
def inCategory (kb : KnowledgeBase) (category : Category) : List Rule :=
  kb.rules.filter fun r => r.category = category

/-- What is wrong with the rule at an index, after rules with the identifiers `seen`. -/
def ruleDefects (seen : List String) (index : Nat) (r : Rule) : List Defect :=
  (if Text.allBlank r.id then [.blankId index]
    else if seen.contains r.id then [.duplicateId index r.id] else [])
  ++ (if 0 ≤ r.certainty ∧ r.certainty ≤ 1 then []
    else [.certaintyRange index r.id r.certainty])
  ++ (if Text.allBlank r.conclusion then [.blankConclusion index r.id] else [])
  ++ (if Text.allBlank r.explanation then [.blankExplanation index r.id] else [])

/-- What is wrong with rules that start at an index, after rules with the identifiers `seen`. -/
def defectsFrom (seen : List String) (index : Nat) : List Rule → List Defect
  | [] => []
  | r :: rest =>
    ruleDefects seen index r
      ++ defectsFrom (if Text.allBlank r.id then seen else r.id :: seen) (index + 1) rest

/-- Everything that is wrong with a knowledge base, in the order of its rules. -/
def defects (kb : KnowledgeBase) : List Defect :=
  (if kb.rules.isEmpty then [.noRules] else []) ++ defectsFrom [] 0 kb.rules

end KnowledgeBase

end CallToAction
