import CallToAction.Proofs.Rule.Condition
import Mathlib.Data.List.Basic
import Mathlib.Logic.Relation

/-!
# The truth of conditions

Classically "all of" is a conjunction and "any of" a disjunction, and the order of parts means
nothing.  Evaluation goes through the parts in order, so the order decides whether a fact that is
missing or not finite is reached.  It never decides between true and false: where all facts of a
condition are known the outcome is the classical one, and an outcome stays what it is when the other
facts become known.

* `holds_all`, `holds_any`: the classical reading;
* `exists_evaluate_of_known`: evaluation finds the classical truth value;
* `Rearranges`: conditions that differ in the order of parts, at any depth;
* `Rearranges.holds_iff`, `evaluate_of_rearranges`: the order of parts does not change an outcome;
* `evaluate_classical`: the whole, with the errors.
-/

namespace CallToAction

/-! ### Knowing every fact -/

namespace FactSheet

/-- The sheet with an input default for every fact that has no finite value. -/
def completed (s : FactSheet) : FactSheet := tabulate fun key => some (s.getOrInitial key)

variable (s : FactSheet)

theorem finite_completed (key : Fact) : s.completed.finite key = .ok (s.getOrInitial key) :=
  (finite_eq_ok_iff _ _ _).2 ⟨get_tabulate _ _, s.isFinite_getOrInitial key⟩

theorem within_completed : s.Within s.completed := by
  intro key v h
  rw [finite_completed, getOrInitial_of_finite s key h]

end FactSheet

/-! ### The classical reading -/

/-- A value stands in a relation to a bound. -/
def Comparison.Relates (v bound : Float) : Comparison → Prop
  | less => v < bound
  | lessOrEqual => v ≤ bound
  | greater => v > bound
  | greaterOrEqual => v ≥ bound
  | equal => (v == bound) = true

theorem Threshold.admits_iff (t : Threshold) (v : Float) :
    t.admits v = true ↔ t.comparison.Relates v t.bound := by
  obtain ⟨comparison, bound⟩ := t
  cases comparison <;> simp [admits, Comparison.holds, Comparison.Relates]

namespace Condition

mutual

/-- A condition holds classically.  A test on a fact holds of a value that is there and stands in
the relation to the bound. -/
def Holds (page : Page) : Condition → Prop
  | fact key ⟨comparison, bound⟩ =>
    ∃ v, page.facts.get key = some v ∧ comparison.Relates v bound
  | is label => page.labels.has label = true
  | all parts => AllHold page parts
  | any parts => SomeHolds page parts

/-- The conjunction of the parts of a condition. -/
def AllHold (page : Page) : List Condition → Prop
  | [] => True
  | part :: rest => part.Holds page ∧ AllHold page rest

/-- The disjunction of the parts of a condition. -/
def SomeHolds (page : Page) : List Condition → Prop
  | [] => False
  | part :: rest => part.Holds page ∨ SomeHolds page rest

end

/-- Every fact that occurs in a condition has a finite value. -/
def Known (page : Page) (c : Condition) : Prop :=
  ∀ key ∈ c.facts, ∃ v, page.facts.finite key = .ok v

section Truth

variable {page : Page} {parts : List Condition}

theorem holds_all : (all parts).Holds page ↔ ∀ part ∈ parts, part.Holds page := by
  rw [Holds]
  induction parts with
  | nil => simp [AllHold]
  | cons part rest ih => rw [AllHold, List.forall_mem_cons, ih]

theorem holds_any : (any parts).Holds page ↔ ∃ part ∈ parts, part.Holds page := by
  rw [Holds]
  induction parts with
  | nil => simp [SomeHolds]
  | cons part rest ih => rw [SomeHolds, List.exists_mem_cons_iff, ih]

theorem mem_partFacts {key : Fact} : key ∈ partFacts parts ↔ ∃ part ∈ parts, key ∈ part.facts := by
  induction parts with
  | nil => simp [partFacts]
  | cons part rest ih => rw [partFacts, List.mem_append, List.exists_mem_cons_iff, ih]

mutual

/-- Evaluation finds the classical truth value where every fact is known. -/
theorem exists_evaluate_of_known (c : Condition) (known : c.Known page) :
    ∃ b, c.evaluate page = .ok b ∧ (b = true ↔ c.Holds page) := by
  cases c with
  | fact key threshold =>
    obtain ⟨v, finite⟩ := known key (by simp [facts])
    refine ⟨_, (evaluate_fact_eq_ok_iff _ _ _ _).2 ⟨v, finite, rfl⟩, ?_⟩
    rw [Threshold.admits_iff, Holds, ((FactSheet.finite_eq_ok_iff _ _ _).1 finite).1]
    simp
  | is label => exact ⟨_, evaluate_is _ _, by rw [Holds]⟩
  | all parts =>
    rw [evaluate_all, Holds]
    exact exists_evaluateAll_of_known parts fun key hk => known key (by simpa only [facts] using hk)
  | any parts =>
    rw [evaluate_any, Holds]
    exact exists_evaluateAny_of_known parts fun key hk => known key (by simpa only [facts] using hk)

theorem exists_evaluateAll_of_known (parts : List Condition)
    (known : ∀ key ∈ partFacts parts, ∃ v, page.facts.finite key = .ok v) :
    ∃ b, evaluateAll page parts = .ok b ∧ (b = true ↔ AllHold page parts) := by
  cases parts with
  | nil => exact ⟨true, evaluateAll_nil _, by simp [AllHold]⟩
  | cons part rest =>
    simp only [partFacts, List.mem_append] at known
    obtain ⟨b, first, truth⟩ := exists_evaluate_of_known part fun key hk => known key (.inl hk)
    obtain ⟨b', others, truths⟩ :=
      exists_evaluateAll_of_known rest fun key hk => known key (.inr hk)
    -- a part that does not hold settles it, and the others are not asked
    refine ⟨b && b', ?_, by rw [Bool.and_eq_true, truth, truths, AllHold]⟩
    rw [evaluateAll_cons, first]
    cases b with
    | true => exact others
    | false => rfl

theorem exists_evaluateAny_of_known (parts : List Condition)
    (known : ∀ key ∈ partFacts parts, ∃ v, page.facts.finite key = .ok v) :
    ∃ b, evaluateAny page parts = .ok b ∧ (b = true ↔ SomeHolds page parts) := by
  cases parts with
  | nil => exact ⟨false, evaluateAny_nil _, by simp [SomeHolds]⟩
  | cons part rest =>
    simp only [partFacts, List.mem_append] at known
    obtain ⟨b, first, truth⟩ := exists_evaluate_of_known part fun key hk => known key (.inl hk)
    obtain ⟨b', others, truths⟩ :=
      exists_evaluateAny_of_known rest fun key hk => known key (.inr hk)
    refine ⟨b || b', ?_, by rw [Bool.or_eq_true, truth, truths, SomeHolds]⟩
    rw [evaluateAny_cons, first]
    cases b with
    | true => rfl
    | false => exact others

end

end Truth

/-! ### Changes inside a condition -/

/-- One condition inside another is replaced by a related one. -/
inductive Replaces (R : Condition → Condition → Prop) : Condition → Condition → Prop
  | here {c d : Condition} (h : R c d) : Replaces R c d
  | all (before after : List Condition) {c d : Condition} (h : Replaces R c d) :
      Replaces R (all (before ++ c :: after)) (all (before ++ d :: after))
  | any (before after : List Condition) {c d : Condition} (h : Replaces R c d) :
      Replaces R (any (before ++ c :: after)) (any (before ++ d :: after))

/-- The parts of a compound condition are put in another order. -/
inductive Permutes : Condition → Condition → Prop
  | all {parts parts' : List Condition} (h : parts.Perm parts') : Permutes (all parts) (all parts')
  | any {parts parts' : List Condition} (h : parts.Perm parts') : Permutes (any parts) (any parts')

/-- Conditions that differ in the order of parts, at any depth. -/
def Rearranges : Condition → Condition → Prop := Relation.ReflTransGen (Replaces Permutes)

section Rearranging

variable {page : Page} {c d : Condition}

theorem mem_facts_of_permutes (h : Permutes c d) (key : Fact) : key ∈ c.facts ↔ key ∈ d.facts := by
  cases h with
  | all h => simp only [facts, mem_partFacts, h.mem_iff]
  | any h => simp only [facts, mem_partFacts, h.mem_iff]

theorem holds_iff_of_permutes (h : Permutes c d) : c.Holds page ↔ d.Holds page := by
  cases h with
  | all h => simp only [holds_all, h.mem_iff]
  | any h => simp only [holds_any, h.mem_iff]

/-- One step keeps the facts of a condition. -/
theorem Replaces.mem_facts_iff (h : Replaces Permutes c d) (key : Fact) :
    key ∈ c.facts ↔ key ∈ d.facts := by
  induction h with
  | here h => exact mem_facts_of_permutes h key
  | all before after _ ih =>
    simp only [facts, mem_partFacts, List.mem_append, or_and_right, exists_or,
      List.exists_mem_cons_iff, ih]
  | any before after _ ih =>
    simp only [facts, mem_partFacts, List.mem_append, or_and_right, exists_or,
      List.exists_mem_cons_iff, ih]

/-- One step keeps the truth of a condition. -/
theorem Replaces.holds_iff (h : Replaces Permutes c d) : c.Holds page ↔ d.Holds page := by
  induction h with
  | here h => exact holds_iff_of_permutes h
  | all before after _ ih => simp only [holds_all, List.forall_mem_append, List.forall_mem_cons, ih]
  | any before after _ ih =>
    simp only [holds_any, List.mem_append, or_and_right, exists_or, List.exists_mem_cons_iff, ih]

theorem Rearranges.mem_facts_iff (h : Rearranges c d) (key : Fact) :
    key ∈ c.facts ↔ key ∈ d.facts := by
  induction h with
  | refl => rfl
  | tail _ step ih => exact ih.trans (step.mem_facts_iff key)

theorem Rearranges.holds_iff (h : Rearranges c d) : c.Holds page ↔ d.Holds page := by
  induction h with
  | refl => rfl
  | tail _ step ih => exact ih.trans step.holds_iff

theorem Rearranges.known (h : Rearranges c d) (known : c.Known page) : d.Known page :=
  fun key hk => known key ((h.mem_facts_iff key).2 hk)

/-- Where every fact is known, the order of parts does not matter at all. -/
theorem evaluate_eq_of_rearranges (h : Rearranges c d) (known : c.Known page) :
    d.evaluate page = c.evaluate page := by
  obtain ⟨b, outcome, truth⟩ := exists_evaluate_of_known c known
  obtain ⟨b', outcome', truth'⟩ := exists_evaluate_of_known d (h.known known)
  have same : b' = b := by rw [Bool.eq_iff_iff, truth', truth, h.holds_iff]
  rw [outcome, outcome', same]

/-- An outcome is kept on a page with the same labels that knows more facts. -/
theorem evaluate_of_within {page' : Page} {b : Bool} (h : c.evaluate page = .ok b)
    (same : page'.labels = page.labels) (within : page.facts.Within page'.facts) :
    c.evaluate page' = .ok b :=
  evaluate_mono within c (fun label _ => by rw [same]) h

/-- Two outcomes of conditions that differ in the order of parts are the same. -/
theorem evaluate_of_rearranges (h : Rearranges c d) {b b' : Bool} (hc : c.evaluate page = .ok b)
    (hd : d.evaluate page = .ok b') : b' = b := by
  -- both outcomes are kept where all facts are known, and there the order does not matter
  let complete : Page := ⟨page.facts.completed, page.labels⟩
  have known : c.Known complete := fun key _ => ⟨_, page.facts.finite_completed key⟩
  have left : c.evaluate complete = .ok b :=
    evaluate_of_within hc rfl page.facts.within_completed
  have right : d.evaluate complete = .ok b' :=
    evaluate_of_within hd rfl page.facts.within_completed
  rw [evaluate_eq_of_rearranges h known, left] at right
  exact (Except.ok.inj right).symm

end Rearranging

/-- **Evaluation is classical as far as facts are known.**  Where every fact of a condition has a
finite value, the outcome is the classical truth value, whatever the order of parts at any depth.
An outcome is kept on every page with the same labels and the same finite values, and no order of
parts leads to the opposite outcome.  An error is about a fact of the condition that is absent, or
has the value that is reported and not finite. -/
theorem evaluate_classical (page : Page) (c : Condition) :
    ((∀ key ∈ c.facts, ∃ v, page.facts.get key = some v ∧ v.isFinite = true) →
        (∃ b, c.evaluate page = .ok b ∧ (b = true ↔ c.Holds page)) ∧
          ∀ d, Rearranges c d → d.evaluate page = c.evaluate page) ∧
      (∀ b, c.evaluate page = .ok b →
        (∀ page' : Page, page'.labels = page.labels →
          (∀ key v, page.facts.get key = some v → v.isFinite = true →
            page'.facts.get key = some v) →
          c.evaluate page' = .ok b) ∧
        ∀ d, Rearranges c d → d.evaluate page ≠ .ok !b) ∧
      ∀ e, c.evaluate page = .error e → ∃ key ∈ c.facts,
        page.facts.get key = none ∧ e = .missing key ∨
          ∃ v, page.facts.get key = some v ∧ v.isFinite = false ∧ e = .notFinite key v := by
  refine ⟨fun finite => ?_, fun b outcome => ⟨fun page' same more => ?_, fun d order => ?_⟩,
    fun e failed => ?_⟩
  · have known : c.Known page := fun key hk => by
      obtain ⟨v, value⟩ := finite key hk
      exact ⟨v, (FactSheet.finite_eq_ok_iff _ _ _).2 value⟩
    exact ⟨exists_evaluate_of_known c known, fun d order => evaluate_eq_of_rearranges order known⟩
  · refine evaluate_of_within outcome same fun key v value => ?_
    rw [FactSheet.finite_eq_ok_iff] at value ⊢
    exact ⟨more key v value.1 value.2, value.2⟩
  · intro opposite
    have := evaluate_of_rearranges order outcome opposite
    simp at this
  · obtain ⟨key, occurs, error⟩ := exists_fact_of_evaluate_eq_error c failed
    exact ⟨key, occurs, (FactSheet.finite_eq_error_iff _ _ _).1 error⟩

/-- A page on which the order of parts decides whether a missing fact is reached: one order leads to
an outcome, the other one to an error, and none to the opposite outcome. -/
theorem evaluate_classical_missing :
    let below : Condition := fact .position ⟨.greater, 800⟩
    let deep : Condition := any [fact .scrollDepth ⟨.less, 50⟩, is (.mobileFriendly true)]
    let page : Page := .ofFacts (.ofList [(.position, 400), (.contrast, 0 / 0)])
    (all [below, deep]).evaluate page = .ok false ∧
      (all [deep, below]).evaluate page = .error (.missing .scrollDepth) ∧
      ∀ d, Rearranges (all [below, deep]) d → d.evaluate page ≠ .ok true := by
  intro below deep page
  have outcome : (all [below, deep]).evaluate page = .ok false := by decide +kernel
  obtain ⟨-, kept, -⟩ := evaluate_classical page (all [below, deep])
  exact ⟨outcome, by decide +kernel, (kept false outcome).2⟩

end Condition

end CallToAction
