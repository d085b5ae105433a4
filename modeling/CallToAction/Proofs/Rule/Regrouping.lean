import CallToAction.Proofs.Rule.Truth
import CallToAction.Proofs.Rule.Wording

/-!
# Regrouping conditions

The order of the tests in a condition decides which of them are made, and so which error is met
first.  How the tests are grouped does not: parts of a part with the same connective can as well be
parts of the whole, and a single part needs no group.

* `evaluateAll_append`, `evaluateAny_append`: where the parts behind other parts are reached;
* `Regroups`: one group is opened;
* `alike_of_replaces`: what has the same outcomes can be replaced anywhere;
* `evaluate_of_regrouped`: conditions that differ in their groups have the same outcomes.
-/

namespace CallToAction.Condition

/-! ### Parts behind other parts -/

section Append

variable (page : Page) (parts rest : List Condition)

/-- Further parts are reached where all parts before them hold. -/
theorem evaluateAll_append :
    evaluateAll page (parts ++ rest) =
      match evaluateAll page parts with
      | .ok true => evaluateAll page rest
      | outcome => outcome := by
  induction parts with
  | nil => rw [List.nil_append, evaluateAll_nil]
  | cons part parts ih =>
    rw [List.cons_append, evaluateAll_cons, evaluateAll_cons, ih]
    rcases part.evaluate page with e | _ | _ <;> rfl

/-- Further parts are reached where no part before them holds. -/
theorem evaluateAny_append :
    evaluateAny page (parts ++ rest) =
      match evaluateAny page parts with
      | .ok false => evaluateAny page rest
      | outcome => outcome := by
  induction parts with
  | nil => rw [List.nil_append, evaluateAny_nil]
  | cons part parts ih =>
    rw [List.cons_append, evaluateAny_cons, evaluateAny_cons, ih]
    rcases part.evaluate page with e | _ | _ <;> rfl

end Append

/-! ### Groups -/

/-- A group inside a condition is opened: its parts become parts of the condition, or the only part
of a group takes its place. -/
inductive Regroups : Condition → Condition → Prop
  | all (before parts after : List Condition) :
      Regroups (all (before ++ [all parts] ++ after)) (all (before ++ parts ++ after))
  | any (before parts after : List Condition) :
      Regroups (any (before ++ [any parts] ++ after)) (any (before ++ parts ++ after))
  | onlyAll (c : Condition) : Regroups (all [c]) c
  | onlyAny (c : Condition) : Regroups (any [c]) c

/-- Conditions that differ in their groups, at any depth: groups are opened or made, one after
another. -/
def Regrouped : Condition → Condition → Prop := Relation.EqvGen (Replaces Regroups)

variable {c d : Condition}

/-- Opening a group keeps the outcomes: on either side the parts of the group are reached where
those before it let them, and they let those behind it be reached in the same way. -/
theorem alike_of_regroups (h : Regroups c d) : Alike c d := by
  intro page
  cases h with
  | all before parts after =>
    rw [evaluate_all, evaluate_all, evaluateAll_append, evaluateAll_append, evaluateAll_append,
      evaluateAll_append, evaluateAll_singleton, evaluate_all]
  | any before parts after =>
    rw [evaluate_any, evaluate_any, evaluateAny_append, evaluateAny_append, evaluateAny_append,
      evaluateAny_append, evaluateAny_singleton, evaluate_any]
  | onlyAll => rw [evaluate_all, evaluateAll_singleton]
  | onlyAny => rw [evaluate_any, evaluateAny_singleton]

/-- What is replaced by something with the same outcomes leaves the outcomes around it the same. -/
theorem alike_of_replaces {R : Condition → Condition → Prop}
    (alike : ∀ {c d : Condition}, R c d → Alike c d) (h : Replaces R c d) : Alike c d := by
  intro page
  induction h with
  | here h => exact alike h page
  | all before after _ ih =>
    rw [evaluate_all, evaluate_all, evaluateAll_append, evaluateAll_append, evaluateAll_cons,
      evaluateAll_cons, ih]
  | any before after _ ih =>
    rw [evaluate_any, evaluate_any, evaluateAny_append, evaluateAny_append, evaluateAny_cons,
      evaluateAny_cons, ih]

/-- **Groups do not matter.**  Conditions that differ in their groups have the same outcome or the
same error on every page. -/
theorem evaluate_of_regrouped (h : Regrouped c d) (page : Page) :
    d.evaluate page = c.evaluate page := by
  induction h with
  | rel c d step => exact (alike_of_replaces alike_of_regroups step page).symm
  | refl c => rfl
  | symm c d _ ih => exact ih.symm
  | trans b c d _ _ first second => exact second.trans first

/-- Three groups are opened, one of them deep inside and one of them empty; the error stays that of
the first test that cannot be made. -/
theorem evaluate_of_regrouped_nested :
    let high : Condition := fact .position ⟨.greater, 800⟩
    let absent : Condition := fact .scrollDepth ⟨.less, 50⟩
    let infinite : Condition := fact .contrast ⟨.less, 3⟩
    let grouped : Condition := any [all [high, all [absent, infinite], all []]]
    let plain : Condition := all [high, absent, infinite]
    let page : Page := .ofFacts (.ofList [(.position, 900), (.contrast, 1 / 0)])
    Regrouped grouped plain ∧ plain.evaluate page = .error (.missing .scrollDepth) ∧
      grouped.evaluate page = .error (.missing .scrollDepth) := by
  intro high absent infinite grouped plain page
  have inner : Replaces Regroups grouped (any [all [high, absent, infinite, all []]]) :=
    .any [] [] (.here (.all [high] [absent, infinite] [all []]))
  have empty : Replaces Regroups (any [all [high, absent, infinite, all []]]) (any [plain]) :=
    .any [] [] (.here (.all [high, absent, infinite] [] []))
  have outer : Replaces Regroups (any [plain]) plain := .here (.onlyAny plain)
  have regrouped : Regrouped grouped plain :=
    ((Relation.EqvGen.rel _ _ inner).trans _ _ _ (.rel _ _ empty)).trans _ _ _ (.rel _ _ outer)
  have failed : grouped.evaluate page = .error (.missing .scrollDepth) := by decide +kernel
  exact ⟨regrouped, (evaluate_of_regrouped regrouped page).trans failed, failed⟩

end CallToAction.Condition
