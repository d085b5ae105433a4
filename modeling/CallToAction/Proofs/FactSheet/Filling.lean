import CallToAction.Proofs.Rule.Condition

/-!
# Filling in input defaults

A sheet is filled by giving every absent fact its input default.  A value that is there stays, also
one that is not finite.

* `overlay_assoc`: sheets may be laid over each other in any grouping;
* `within_filled`, `filledFrom_filled`: what filling does to the finite values;
* `getOrInitial_filled`: what is read with input defaults is read from either sheet.
-/

namespace CallToAction

namespace FactSheet

/-- The sheet with an input default for every absent fact. -/
def filled (s : FactSheet) : FactSheet := defaults.overlay s

theorem overlay_assoc (a b c : FactSheet) : (a.overlay b).overlay c = a.overlay (b.overlay c) := by
  apply ext_get
  intro key
  simp only [get_overlay, Option.or_assoc]

theorem empty_overlay (s : FactSheet) : empty.overlay s = s := by
  apply ext_get
  intro key
  simp

section Filled

variable (s : FactSheet) (key : Fact)

@[simp] theorem get_filled : s.filled.get key = (s.get key).or (some key.initial) := by
  simp [filled]

theorem within_filled : s.Within s.filled := by
  intro key v h
  obtain ⟨known, finite⟩ := (finite_eq_ok_iff _ _ _).1 h
  exact (finite_eq_ok_iff _ _ _).2 ⟨by simp [known], finite⟩

theorem filledFrom_filled : s.filled.FilledFrom s := by
  intro key v h
  obtain ⟨known, finite⟩ := (finite_eq_ok_iff _ _ _).1 h
  rw [get_filled] at known
  cases hs : s.get key with
  | none =>
    rw [hs] at known
    exact .inr (Option.some.inj known).symm
  | some w =>
    rw [hs] at known
    exact .inl ((finite_eq_ok_iff _ _ _).2 ⟨hs.trans known, finite⟩)

@[simp] theorem getOrInitial_filled : s.filled.getOrInitial key = s.getOrInitial key := by
  unfold getOrInitial
  rw [get_filled]
  cases s.get key with
  | none => exact if_pos (isFinite_initial key)
  | some v => rfl

end Filled

end FactSheet

end CallToAction
