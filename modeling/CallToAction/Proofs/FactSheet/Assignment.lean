import CallToAction.FactSheet.Assignment
import Mathlib.Data.List.Induction
import Mathlib.Tactic.SplitIfs

/-!
# Lists of assignments

A list of assignments is carried out if each of them is well formed.  Then the last assignment of a
fact gives its value, and a fact that is not assigned has none.

* `FactSheet.ofAssignments_eq_ok_iff`: when a list of assignments is carried out;
* `FactSheet.get_assigned`: the last assignment counts.
-/

namespace CallToAction

namespace Assignment

/-- A text can be read as an assignment. -/
def WellFormed (text : String) : Prop := ∃ a, ofText text = .ok a

instance (text : String) : Decidable (WellFormed text) :=
  match h : ofText text with
  | .ok a => .isTrue ⟨a, h⟩
  | .error _ => .isFalse fun ⟨_, ha⟩ => nomatch h.symm.trans ha

/-- What is reported of a text, unless it can be read. -/
def fault? (text : String) : Option (String × Error) :=
  match ofText text with
  | .ok _ => none
  | .error e => some (text, e)

/-- Nothing is reported of texts that can all be read. -/
theorem filterMap_fault?_eq_nil_iff (texts : List String) :
    texts.filterMap fault? = [] ↔ ∀ text ∈ texts, WellFormed text := by
  rw [List.filterMap_eq_nil_iff]
  refine forall₂_congr fun text _ => ?_
  unfold fault? WellFormed
  cases ofText text <;> simp

/-- The value that an assignment gives a fact. -/
def value? (key : Fact) (text : String) : Option Float :=
  match ofText text with
  | .ok a => if a.fact = key then some a.value else none
  | .error _ => none

/-- The value that the last assignment of a fact gives it. -/
def last? (texts : List String) (key : Fact) : Option Float := texts.reverse.findSome? (value? key)

theorem last?_concat (texts : List String) (text : String) (key : Fact) :
    last? (texts ++ [text]) key = (value? key text).or (last? texts key) := by
  rw [last?, List.reverse_append, List.reverse_singleton, List.singleton_append,
    List.findSome?_cons]
  cases value? key text <;> rfl

end Assignment

namespace FactSheet

open Assignment

/-- The overrides of those texts that are assignments. -/
def assigned (texts : List String) : FactSheet :=
  (texts.filterMap fun text => (ofText text).toOption).foldl assign empty

theorem carryOutNext_eq (s : FactSheet × List (String × Error)) (text : String) :
    carryOutNext s text =
      ((ofText text).toOption.elim s.1 s.1.assign, s.2 ++ (fault? text).toList) := by
  unfold carryOutNext carryOut fault?
  cases ofText text <;> simp [Except.toOption]

/-- The assignments that can be read are carried out, and what is wrong with the others is
collected. -/
theorem foldl_carryOutNext (texts : List String) (s : FactSheet × List (String × Error)) :
    texts.foldl carryOutNext s =
      ((texts.filterMap fun text => (ofText text).toOption).foldl assign s.1,
        s.2 ++ texts.filterMap fault?) := by
  induction texts generalizing s with
  | nil => simp
  | cons text texts ih =>
    rw [List.foldl_cons, ih, carryOutNext_eq, List.filterMap_cons, List.filterMap_cons]
    cases ofText text <;> cases fault? text <;> simp [Except.toOption]

theorem ofAssignments_eq (texts : List String) :
    ofAssignments texts =
      if (texts.filterMap fault?).isEmpty then .ok (assigned texts)
      else .error (texts.filterMap fault?) := by
  have all : carryOutAll texts = (assigned texts, texts.filterMap fault?) := by
    rw [carryOutAll, foldl_carryOutNext, List.nil_append, assigned]
  rw [ofAssignments, all]
  cases texts.filterMap fault? <;> rfl

/-- A list of assignments is carried out if each of them is well formed. -/
theorem ofAssignments_eq_ok_iff (texts : List String) (s : FactSheet) :
    ofAssignments texts = .ok s ↔ (∀ text ∈ texts, WellFormed text) ∧ assigned texts = s := by
  rw [ofAssignments_eq, ← filterMap_fault?_eq_nil_iff, ← List.isEmpty_iff]
  split_ifs with none
  · rw [Except.ok.injEq]
    exact (and_iff_right none).symm
  · simp [none]

/-- Each fact has the value of its last assignment. -/
theorem get_assigned (texts : List String) (key : Fact) :
    (assigned texts).get key = last? texts key := by
  induction texts using List.reverseRecOn with
  | nil => simp [assigned, last?]
  | append_singleton texts text ih =>
    rw [last?_concat, ← ih, assigned, List.filterMap_append, List.foldl_append]
    cases h : ofText text with
    | error e => simp [h, Except.toOption, value?, assigned]
    | ok a =>
      simp only [h, Except.toOption, List.filterMap_cons, List.filterMap_nil, List.foldl_cons,
        List.foldl_nil, value?, assign]
      split_ifs with same
      · rw [← same, get_set_self, Option.some_or]
      · exact get_set_of_ne _ _ (Ne.symm same)

end FactSheet

end CallToAction
