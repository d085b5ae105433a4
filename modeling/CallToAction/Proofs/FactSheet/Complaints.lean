import CallToAction.Proofs.FactSheet.Reading
import Mathlib.Data.List.Forall2

/-!
# Complaints about values

A sheet is complained about value by value: there is one line for each value that offends, in the
order of the facts, and none for any other.  So where one sheet is laid over another, the complaints
are those about the upper sheet and those about the values that it does not hide.

* `Fact.Offends`, `violation?_ne_none_iff`: which values offend;
* `complaints_exact`: the lines about a sheet;
* `complaints_overlay`: the lines about two sheets in layers;
* `violations_overlay_eq_nil`: valid sheets in layers are valid.
-/

namespace CallToAction

/-! ### Offending values -/

namespace Fact

/-- A value is out of the range of its fact, if the fact has one. -/
def OutOfRange (key : Fact) (v : Float) : Prop :=
  (key = contrast ∧ ¬ (1 ≤ v ∧ v ≤ 21)) ∨
    ((key = scrollDepth ∨ key = clickRate) ∧ 100 < v) ∨
    (key = loadingAnimation ∧ (v == 0) = false ∧ (v == 1) = false)

/-- A value of a fact offends. -/
def Offends (key : Fact) (v : Float) : Prop := v.isFinite = false ∨ v < 0 ∨ key.OutOfRange v

instance (key : Fact) (v : Float) : Decidable (key.OutOfRange v) :=
  inferInstanceAs (Decidable (_ ∨ _))

instance (key : Fact) (v : Float) : Decidable (key.Offends v) := inferInstanceAs (Decidable (_ ∨ _))

theorem rangeViolation?_ne_none_iff (key : Fact) (v : Float) :
    key.rangeViolation? v ≠ none ↔ key.OutOfRange v := by
  unfold OutOfRange
  cases key <;> simp [rangeViolation?, imp_iff_not_or]

/-- There is something wrong with a value if it offends. -/
theorem violation?_ne_none_iff (key : Fact) (v : Float) :
    key.violation? v ≠ none ↔ key.Offends v := by
  unfold violation? Offends
  split_ifs with infinite negative
  · simp only [Bool.not_eq_true'] at infinite
    exact iff_of_true nofun (.inl infinite)
  · exact iff_of_true nofun (.inr (.inl negative))
  · simp only [Bool.not_eq_true', Bool.not_eq_false] at infinite
    simp [rangeViolation?_ne_none_iff, infinite, negative]

/-- A value that is not a number offends, a zero with a sign does not. -/
example : width.Offends (0 / 0) ∧ ¬ loadingAnimation.Offends (-0) := by decide

/-- The line about what is wrong with the value of a fact; a scope such as `defaults` stands before
the name of the fact. -/
def complaint (scope : String) (key : Fact) (violation : Violation) : String :=
  let field := if scope.isEmpty then key.name else s!"{scope}.{key.name}"
  s!"{field}: {violation.message}"

end Fact

namespace FactSheet

/-! ### The lines about a sheet -/

/-- The value of a fact on a sheet offends. -/
def Offends (s : FactSheet) (key : Fact) : Prop := ∃ v, s.get key = some v ∧ key.Offends v

instance (s : FactSheet) (key : Fact) : Decidable (s.Offends key) :=
  decidable_of_iff (∃ v ∈ s.get key, key.Offends v) Iff.rfl

/-- What is wrong with the value of a fact on a sheet, if anything. -/
def violation? (s : FactSheet) (key : Fact) : Option Violation := (s.get key).bind key.violation?

variable (s : FactSheet)

theorem violation?_eq_some_iff (key : Fact) (violation : Violation) :
    s.violation? key = some violation ↔
      ∃ v, s.get key = some v ∧ key.violation? v = some violation :=
  Option.bind_eq_some_iff

theorem offends_iff (key : Fact) : s.Offends key ↔ s.violation? key ≠ none := by
  unfold Offends violation?
  cases s.get key <;> simp [← Fact.violation?_ne_none_iff]

theorem violations_eq :
    s.violations = Fact.all.filterMap fun key => (s.violation? key).map (key, ·) := by
  rw [violations, present, List.filterMap_filterMap]
  refine List.filterMap_congr fun key _ => ?_
  unfold violation?
  cases s.get key <;> rfl

theorem complaints_eq (scope : String) :
    s.complaints scope = s.violations.map fun (key, violation) => key.complaint scope violation :=
  rfl

end FactSheet

/-- What a partial function gives for the elements on which it is defined. -/
theorem forall₂_filter_filterMap {α β : Type} {p : α → Prop} [DecidablePred p] {f : α → Option β}
    (defined : ∀ x, p x ↔ f x ≠ none) (xs : List α) :
    List.Forall₂ (fun x y => f x = some y) (xs.filter p) (xs.filterMap f) := by
  induction xs with
  | nil => exact .nil
  | cons x xs ih =>
    cases given : f x with
    | none =>
      have unmet : ¬ p x := fun h => (defined x).1 h given
      simpa [given, unmet] using ih
    | some y =>
      have met : p x := (defined x).2 (by simp [given])
      simpa [given, met] using ih

/-- Of two partial functions that are nowhere both defined, the values are those of the one and
those of the other. -/
theorem filterMap_or_perm {α β : Type} {f g : α → Option β}
    (apart : ∀ x, f x = none ∨ g x = none) (xs : List α) :
    (xs.filterMap fun x => (f x).or (g x)).Perm (xs.filterMap f ++ xs.filterMap g) := by
  induction xs with
  | nil => exact .nil
  | cons x xs ih =>
    rcases apart x with none | none
    · cases given : g x with
      | none => simpa [none, given] using ih
      | some y => simpa [none, given] using (ih.cons y).trans List.perm_middle.symm
    · cases given : f x with
      | none => simpa [none, given] using ih
      | some y => simpa [none, given] using ih

namespace FactSheet

/-- There is one line about each offending value, in the order of the facts, and none else. -/
theorem complaints_exact (scope : String) (s : FactSheet) :
    List.Forall₂
      (fun key line => ∃ v violation, s.get key = some v ∧ key.violation? v = some violation ∧
        line = key.complaint scope violation)
      (Fact.all.filter fun key => s.Offends key) (s.complaints scope) := by
  rw [complaints_eq, violations_eq, List.forall₂_map_right_iff]
  refine (forall₂_filter_filterMap (fun key => ?_) Fact.all).imp ?_
  · rw [offends_iff, Ne, Ne, Option.map_eq_none_iff]
  · rintro key ⟨_, violation⟩ given
    obtain ⟨_, found, ⟨⟩⟩ := Option.map_eq_some_iff.1 given
    obtain ⟨v, value, wrong⟩ := (s.violation?_eq_some_iff key violation).1 found
    exact ⟨v, violation, value, wrong, rfl⟩

theorem mem_violations_iff (s : FactSheet) (key : Fact) (violation : Violation) :
    (key, violation) ∈ s.violations ↔
      ∃ v, s.get key = some v ∧ key.violation? v = some violation := by
  simp [violations, mem_present_iff]

/-- A line is about the value of a fact. -/
theorem exists_of_mem_complaints {scope line : String} {s : FactSheet}
    (h : line ∈ s.complaints scope) :
    ∃ key v violation, s.get key = some v ∧ key.violation? v = some violation ∧
      line = key.complaint scope violation := by
  obtain ⟨⟨key, violation⟩, member, rfl⟩ := List.mem_map.1 h
  obtain ⟨v, value, wrong⟩ := (s.mem_violations_iff key violation).1 member
  exact ⟨key, v, violation, value, wrong, rfl⟩

/-! ### Layers -/

variable (a b : FactSheet)

/-- A value that is laid over another one is what counts. -/
theorem violation?_overlay (key : Fact) :
    (a.overlay b).violation? key =
      (b.violation? key).or (if (b.get key).isNone then a.violation? key else none) := by
  unfold violation?
  rw [get_overlay]
  cases b.get key with
  | none => rfl
  | some v => exact Option.or_none.symm

theorem filter_violations (visible : Fact → Bool) :
    (a.violations.filter fun (key, _) => visible key) =
      Fact.all.filterMap fun key =>
        (if visible key then a.violation? key else none).map (key, ·) := by
  rw [violations_eq, List.filter_filterMap]
  refine List.filterMap_congr fun key _ => ?_
  cases shown : visible key <;> cases a.violation? key <;> simp [shown]

/-- The violations on two sheets in layers are those on the upper one and those on the lower one
that are about facts which the upper one has no value for. -/
theorem violations_overlay :
    (a.overlay b).violations.Perm
      (b.violations ++ a.violations.filter fun (key, _) => (b.get key).isNone) := by
  have apart (key : Fact) : (b.violation? key).map (key, ·) = none ∨
      (if (b.get key).isNone then a.violation? key else none).map (key, ·) = none := by
    cases value : b.get key with
    | none => exact .inl (by simp [violation?, value])
    | some v => exact .inr rfl
  have shown := filter_violations a fun key => (b.get key).isNone
  rw [shown, violations_eq, violations_eq]
  simp only [violation?_overlay, Option.map_or]
  exact filterMap_or_perm apart Fact.all

/-- So it is with the lines about them. -/
theorem complaints_overlay (scope : String) :
    ((a.overlay b).complaints scope).Perm
      (b.complaints scope ++ (a.violations.filter fun (key, _) => (b.get key).isNone).map
        fun (key, violation) => key.complaint scope violation) := by
  rw [complaints_eq, complaints_eq, ← List.map_append]
  exact (violations_overlay a b).map _

theorem violations_empty : empty.violations = [] := by decide

/-- The input defaults are valid. -/
theorem violations_defaults : defaults.violations = [] := by decide

/-- Valid sheets in layers are valid. -/
theorem violations_overlay_eq_nil {a b : FactSheet} (ha : a.violations = [])
    (hb : b.violations = []) : (a.overlay b).violations = [] := by
  have none := violations_overlay a b
  rw [ha, hb] at none
  exact none.eq_nil

end FactSheet

end CallToAction
