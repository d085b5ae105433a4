import CallToAction.Proofs.FactSheet.Reading
import CallToAction.Rule.Basic

/-!
# Outcomes of conditions

A condition has an outcome where no fact is missed on the way to it.  Facts that are filled in
later do not change an outcome, as long as the labels that the condition tests stay the same.
Filling in with input defaults does not make a condition hold either, if the condition is guarded:
each test on a fact that it cannot do without refuses the input default.

* `evaluate_all_eq_true_iff`: when all parts hold;
* `exists_fact_of_evaluate_eq_error`: an error is that of a fact in the condition;
* `evaluate_mono`: an outcome is kept where more facts are known;
* `evaluate_fact_iff_getOrInitial`: a test that refuses the input default;
* `evaluate_of_guarded`: a guarded condition that holds with input defaults holds without them.
-/

namespace CallToAction

namespace FactSheet

/-- Every finite value of `p` is the value of the same fact in `q`. -/
def Within (p q : FactSheet) : Prop := ∀ key v, p.finite key = .ok v → q.finite key = .ok v

/-- Every finite value of `q` that `p` does not have is an input default. -/
def FilledFrom (q p : FactSheet) : Prop :=
  ∀ key v, q.finite key = .ok v → p.finite key = .ok v ∨ v = key.initial

end FactSheet

namespace Condition

/-! ### Outcomes of compound conditions -/

section Outcome

variable (page : Page)

theorem evaluate_fact_eq_ok_iff (key : Fact) (threshold : Threshold) (b : Bool) :
    (fact key threshold).evaluate page = .ok b ↔
      ∃ v, page.facts.finite key = .ok v ∧ threshold.admits v = b := by
  rw [evaluate]
  cases page.facts.finite key <;> simp [Except.map]

theorem evaluateAll_cons_eq_ok_iff (part : Condition) (rest : List Condition) (b : Bool) :
    evaluateAll page (part :: rest) = .ok b ↔
      part.evaluate page = .ok true ∧ evaluateAll page rest = .ok b ∨
        part.evaluate page = .ok false ∧ b = false := by
  rw [evaluateAll_cons]
  rcases part.evaluate page with e | _ | _ <;> simp [eq_comm]

theorem evaluateAny_cons_eq_ok_iff (part : Condition) (rest : List Condition) (b : Bool) :
    evaluateAny page (part :: rest) = .ok b ↔
      part.evaluate page = .ok false ∧ evaluateAny page rest = .ok b ∨
        part.evaluate page = .ok true ∧ b = true := by
  rw [evaluateAny_cons]
  rcases part.evaluate page with e | _ | _ <;> simp [eq_comm]

/-- All parts hold if each of them does. -/
theorem evaluate_all_eq_true_iff (parts : List Condition) :
    (all parts).evaluate page = .ok true ↔ ∀ part ∈ parts, part.evaluate page = .ok true := by
  rw [evaluate_all]
  induction parts with
  | nil => simp
  | cons part rest ih => simp [evaluateAll_cons_eq_ok_iff, ih]

end Outcome

/-! ### Errors -/

mutual

/-- The facts that occur in a condition. -/
def facts : Condition → List Fact
  | fact key _ => [key]
  | is _ => []
  | all parts | any parts => partFacts parts

/-- The facts that occur in the parts of a condition. -/
def partFacts : List Condition → List Fact
  | [] => []
  | part :: rest => part.facts ++ partFacts rest

end

section Errors

variable {page : Page} {e : EvaluationError}

theorem evaluateAll_cons_eq_error_iff (part : Condition) (rest : List Condition) :
    evaluateAll page (part :: rest) = .error e ↔
      part.evaluate page = .error e ∨
        part.evaluate page = .ok true ∧ evaluateAll page rest = .error e := by
  rw [evaluateAll_cons]
  rcases part.evaluate page with e | _ | _ <;> simp

theorem evaluateAny_cons_eq_error_iff (part : Condition) (rest : List Condition) :
    evaluateAny page (part :: rest) = .error e ↔
      part.evaluate page = .error e ∨
        part.evaluate page = .ok false ∧ evaluateAny page rest = .error e := by
  rw [evaluateAny_cons]
  rcases part.evaluate page with e | _ | _ <;> simp

mutual

/-- A condition fails on one of the facts that occur in it. -/
theorem exists_fact_of_evaluate_eq_error (c : Condition) (h : c.evaluate page = .error e) :
    ∃ key ∈ c.facts, page.facts.finite key = .error e := by
  cases c with
  | fact key threshold =>
    refine ⟨key, by simp [facts], ?_⟩
    rw [evaluate] at h
    cases value : page.facts.finite key with
    | ok v => simp [value, Except.map] at h
    | error e => simpa [value, Except.map] using h
  | is label => simp at h
  | all parts =>
    rw [evaluate_all] at h
    simpa only [facts] using exists_fact_of_evaluateAll_eq_error parts h
  | any parts =>
    rw [evaluate_any] at h
    simpa only [facts] using exists_fact_of_evaluateAny_eq_error parts h

theorem exists_fact_of_evaluateAll_eq_error (parts : List Condition)
    (h : evaluateAll page parts = .error e) :
    ∃ key ∈ partFacts parts, page.facts.finite key = .error e := by
  cases parts with
  | nil => simp at h
  | cons part rest =>
    simp only [partFacts, List.mem_append]
    rcases (evaluateAll_cons_eq_error_iff part rest).1 h with here | ⟨-, later⟩
    · obtain ⟨key, occurs, failed⟩ := exists_fact_of_evaluate_eq_error part here
      exact ⟨key, .inl occurs, failed⟩
    · obtain ⟨key, occurs, failed⟩ := exists_fact_of_evaluateAll_eq_error rest later
      exact ⟨key, .inr occurs, failed⟩

theorem exists_fact_of_evaluateAny_eq_error (parts : List Condition)
    (h : evaluateAny page parts = .error e) :
    ∃ key ∈ partFacts parts, page.facts.finite key = .error e := by
  cases parts with
  | nil => simp at h
  | cons part rest =>
    simp only [partFacts, List.mem_append]
    rcases (evaluateAny_cons_eq_error_iff part rest).1 h with here | ⟨-, later⟩
    · obtain ⟨key, occurs, failed⟩ := exists_fact_of_evaluate_eq_error part here
      exact ⟨key, .inl occurs, failed⟩
    · obtain ⟨key, occurs, failed⟩ := exists_fact_of_evaluateAny_eq_error rest later
      exact ⟨key, .inr occurs, failed⟩

end

end Errors

/-! ### More facts -/

mutual

/-- The labels that a condition tests. -/
def labels : Condition → List Label
  | fact _ _ => []
  | is label => [label]
  | all parts | any parts => partLabels parts

/-- The labels that the parts of a condition test. -/
def partLabels : List Condition → List Label
  | [] => []
  | part :: rest => part.labels ++ partLabels rest

end

section More

variable {p q : Page}

mutual

/-- An outcome is kept where more facts are known and the tested labels are the same. -/
theorem evaluate_mono (within : p.facts.Within q.facts) {b : Bool} (c : Condition)
    (same : ∀ label ∈ c.labels, p.labels.has label = q.labels.has label)
    (h : c.evaluate p = .ok b) : c.evaluate q = .ok b := by
  cases c with
  | fact key threshold =>
    obtain ⟨v, known, outcome⟩ := (evaluate_fact_eq_ok_iff _ _ _ _).1 h
    exact (evaluate_fact_eq_ok_iff _ _ _ _).2 ⟨v, within key v known, outcome⟩
  | is label =>
    rw [evaluate_is] at h ⊢
    rw [← same label (by simp [labels])]
    exact h
  | all parts =>
    rw [evaluate_all] at h ⊢
    exact evaluateAll_mono within parts (by simpa only [labels] using same) h
  | any parts =>
    rw [evaluate_any] at h ⊢
    exact evaluateAny_mono within parts (by simpa only [labels] using same) h

theorem evaluateAll_mono (within : p.facts.Within q.facts) {b : Bool} (parts : List Condition)
    (same : ∀ label ∈ partLabels parts, p.labels.has label = q.labels.has label)
    (h : evaluateAll p parts = .ok b) : evaluateAll q parts = .ok b := by
  cases parts with
  | nil => simpa using h
  | cons part rest =>
    simp only [partLabels, List.mem_append] at same
    have first {b : Bool} : part.evaluate p = .ok b → part.evaluate q = .ok b :=
      evaluate_mono within part fun label hl => same label (.inl hl)
    rw [evaluateAll_cons_eq_ok_iff] at h ⊢
    rcases h with ⟨holds, others⟩ | ⟨rejects, rfl⟩
    · have := evaluateAll_mono within rest (fun label hl => same label (.inr hl)) others
      exact .inl ⟨first holds, this⟩
    · exact .inr ⟨first rejects, rfl⟩

theorem evaluateAny_mono (within : p.facts.Within q.facts) {b : Bool} (parts : List Condition)
    (same : ∀ label ∈ partLabels parts, p.labels.has label = q.labels.has label)
    (h : evaluateAny p parts = .ok b) : evaluateAny q parts = .ok b := by
  cases parts with
  | nil => simpa using h
  | cons part rest =>
    simp only [partLabels, List.mem_append] at same
    have first {b : Bool} : part.evaluate p = .ok b → part.evaluate q = .ok b :=
      evaluate_mono within part fun label hl => same label (.inl hl)
    rw [evaluateAny_cons_eq_ok_iff] at h ⊢
    rcases h with ⟨rejects, others⟩ | ⟨holds, rfl⟩
    · have := evaluateAny_mono within rest (fun label hl => same label (.inr hl)) others
      exact .inl ⟨first rejects, this⟩
    · exact .inr ⟨first holds, rfl⟩

end

end More

/-! ### Input defaults -/

mutual

/-- Whether each test on a fact is one that has to be passed and that refuses the input default. -/
def guarded : Condition → Bool
  | fact key threshold => !threshold.admits key.initial
  | is _ => true
  | all parts => partsGuarded parts
  | any _ => false

/-- Whether the parts of a condition are guarded. -/
def partsGuarded : List Condition → Bool
  | [] => true
  | part :: rest => part.guarded && partsGuarded rest

end

/-- A test that refuses the input default can as well be made on what is read with it. -/
theorem evaluate_fact_iff_getOrInitial (page : Page) {key : Fact} {threshold : Threshold}
    (refuses : threshold.admits key.initial = false) :
    (fact key threshold).evaluate page = .ok true ↔
      threshold.admits (page.facts.getOrInitial key) = true := by
  rw [evaluate_fact_eq_ok_iff]
  cases h : page.facts.finite key with
  | ok v => simp [FactSheet.getOrInitial_of_finite _ _ h]
  | error e => simp [FactSheet.getOrInitial_of_error _ _ h, refuses]

section Guarded

variable {p q : Page}

mutual

/-- A guarded condition that holds with input defaults holds without them. -/
theorem evaluate_of_guarded (filled : q.facts.FilledFrom p.facts) (c : Condition)
    (hc : c.guarded = true)
    (same : ∀ label ∈ c.labels, p.labels.has label = q.labels.has label)
    (h : c.evaluate q = .ok true) : c.evaluate p = .ok true := by
  cases c with
  | fact key threshold =>
    obtain ⟨v, known, admitted⟩ := (evaluate_fact_eq_ok_iff _ _ _ _).1 h
    rcases filled key v known with kept | rfl
    · exact (evaluate_fact_eq_ok_iff _ _ _ _).2 ⟨v, kept, admitted⟩
    · simp [guarded, admitted] at hc
  | is label =>
    rw [evaluate_is] at h ⊢
    rw [same label (by simp [labels])]
    exact h
  | all parts =>
    rw [evaluate_all_eq_true_iff] at h ⊢
    exact evaluate_of_partsGuarded filled parts (by simpa only [guarded] using hc)
      (by simpa only [labels] using same) h
  | any parts => simp [guarded] at hc

theorem evaluate_of_partsGuarded (filled : q.facts.FilledFrom p.facts) (parts : List Condition)
    (hc : partsGuarded parts = true)
    (same : ∀ label ∈ partLabels parts, p.labels.has label = q.labels.has label)
    (h : ∀ part ∈ parts, part.evaluate q = .ok true) :
    ∀ part ∈ parts, part.evaluate p = .ok true := by
  cases parts with
  | nil => simp
  | cons part rest =>
    simp only [partLabels, List.mem_append] at same
    simp only [partsGuarded, Bool.and_eq_true] at hc
    simp only [List.forall_mem_cons] at h ⊢
    exact ⟨evaluate_of_guarded filled part hc.1 (fun label hl => same label (.inl hl)) h.1,
      evaluate_of_partsGuarded filled rest hc.2 (fun label hl => same label (.inr hl)) h.2⟩

end

end Guarded

end Condition

end CallToAction
