import CallToAction.FactSheet.Validity
import CallToAction.Rule.Condition
import Mathlib.Tactic.SplitIfs

/-!
# Reading the values of a sheet

A fact is read as its finite value, as an error, or with its input default in place of the error;
the last way always leads to a finite number.  On a sheet without violations every value that is
there is finite.

* `finite_eq_ok_iff`, `finite_eq_error_iff`: when a fact has a finite value, and why it has none;
* `getOrInitial_of_finite`, `getOrInitial_of_error`: reading with input defaults;
* `isFinite_getOrInitial`: what is read with input defaults is finite;
* `violations_eq_nil_iff`: a sheet is valid if each of its values is;
* `Labels.fallback_eq_initial`, `Labels.reading_eq_getOrInitial`: labels fall back on input
  defaults, with one exception.
-/

namespace CallToAction

namespace FactSheet

/-- The sheet with the values that a function gives. -/
def tabulate (f : Fact → Option Float) : FactSheet :=
  Fact.all.foldl (fun s fact => s.put fact (f fact)) empty

@[simp] theorem get_tabulate (f : Fact → Option Float) (fact : Fact) :
    (tabulate f).get fact = f fact := get_foldl_put f empty fact

variable (s : FactSheet) (key : Fact)

theorem finite_eq_ok_iff (v : Float) :
    s.finite key = .ok v ↔ s.get key = some v ∧ v.isFinite = true := by
  unfold finite
  split
  · next h => simp [h]
  · next w h =>
    rw [h, Option.some.injEq]
    split_ifs with hw
    · simp only [Except.ok.injEq, iff_self_and]
      rintro rfl
      exact hw
    · simp only [false_iff, not_and]
      rintro rfl
      exact hw

theorem finite_eq_error_iff (e : EvaluationError) :
    s.finite key = .error e ↔
      s.get key = none ∧ e = .missing key ∨
        ∃ v, s.get key = some v ∧ v.isFinite = false ∧ e = .notFinite key v := by
  unfold finite
  split
  · next h =>
    rw [h, Except.error.injEq, eq_comm]
    simp
  · next w h =>
    rw [h]
    split_ifs with hw
    · simp [hw]
    · rw [Except.error.injEq, eq_comm]
      simp [hw]

theorem getOrInitial_of_finite {v : Float} (h : s.finite key = .ok v) : s.getOrInitial key = v := by
  obtain ⟨known, finite⟩ := (finite_eq_ok_iff s key v).1 h
  simp [getOrInitial, known, finite]

theorem getOrInitial_of_error {e : EvaluationError} (h : s.finite key = .error e) :
    s.getOrInitial key = key.initial := by
  unfold getOrInitial
  split
  · next v known =>
    refine if_neg fun finite => ?_
    cases h.symm.trans ((finite_eq_ok_iff s key v).2 ⟨known, finite⟩)
  · rfl

theorem isFinite_initial : key.initial.isFinite = true := by
  cases key <;> decide

theorem isFinite_getOrInitial : (s.getOrInitial key).isFinite = true := by
  cases h : s.finite key with
  | ok v =>
    rw [getOrInitial_of_finite s key h]
    exact ((finite_eq_ok_iff s key v).1 h).2
  | error e =>
    rw [getOrInitial_of_error s key h]
    exact isFinite_initial key

/-! ### Valid sheets -/

theorem mem_present_iff (v : Float) : (key, v) ∈ s.present ↔ s.get key = some v := by
  simp [present]

theorem violations_eq_nil_iff :
    s.violations = [] ↔ ∀ key v, s.get key = some v → key.violation? v = none := by
  simp [violations, List.filterMap_eq_nil_iff, mem_present_iff]

variable {s key}

theorem isFinite_of_violation?_eq_none {v : Float} (h : key.violation? v = none) :
    v.isFinite = true := by
  unfold Fact.violation? at h
  split_ifs at h with finite negative
  simpa using finite

/-- A valid flag is zero or one. -/
theorem flag_of_violation?_eq_none {v : Float} (h : Fact.loadingAnimation.violation? v = none) :
    (v == 0) = true ∨ (v == 1) = true := by
  simp only [Fact.violation?, Fact.rangeViolation?] at h
  split_ifs at h with finite negative flag
  simpa using flag

/-- On a valid sheet a fact with a value has a finite one. -/
theorem finite_of_get (valid : s.violations = []) {v : Float} (h : s.get key = some v) :
    s.finite key = .ok v :=
  (finite_eq_ok_iff s key v).2
    ⟨h, isFinite_of_violation?_eq_none ((violations_eq_nil_iff s).1 valid key v h)⟩

/-- On a valid sheet a fact without a finite value is absent. -/
theorem missing_of_error (valid : s.violations = []) {e : EvaluationError}
    (h : s.finite key = .error e) : s.get key = none ∧ e = .missing key := by
  rcases (finite_eq_error_iff s key e).1 h with absent | ⟨v, known, infinite, -⟩
  · exact absent
  · cases h.symm.trans (finite_of_get valid known)

/-- On a valid sheet the flag is read as zero or one. -/
theorem flag_getOrInitial (valid : s.violations = []) :
    (s.getOrInitial .loadingAnimation == 0) = true ∨
      (s.getOrInitial .loadingAnimation == 1) = true := by
  cases h : s.finite .loadingAnimation with
  | ok v =>
    rw [getOrInitial_of_finite s _ h]
    have known := ((finite_eq_ok_iff s _ v).1 h).1
    exact flag_of_violation?_eq_none ((violations_eq_nil_iff s).1 valid _ v known)
  | error e =>
    rw [getOrInitial_of_error s _ h]
    exact .inr (by decide)

end FactSheet

namespace Labels

/-- What labels fall back on is the input default, but for the largest other element. -/
theorem fallback_eq_initial {key : Fact} (h : key ≠ .largestOther) :
    fallback key = key.initial := by
  cases key with
  | largestOther => contradiction
  | _ => rfl

/-- Labels are derived with input defaults but for the largest other element. -/
theorem reading_eq_getOrInitial (s : FactSheet) {key : Fact} (h : key ≠ .largestOther) :
    reading s key = s.getOrInitial key := by
  unfold reading FactSheet.getOrInitial
  cases s.get key with
  | none => exact fallback_eq_initial h
  | some v => simp only [fallback_eq_initial h]

end Labels

end CallToAction
