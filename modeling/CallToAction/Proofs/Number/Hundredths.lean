import CallToAction.Certainty
import Mathlib.Algebra.Order.Floor.Ring
import Mathlib.Data.Rat.Floor
import Mathlib.Tactic.FieldSimp
import Mathlib.Tactic.Linarith
import Mathlib.Tactic.NormNum

/-!
# Exact rounding to hundredths

On exact fractions the nearest hundredth is found by rounding the hundredfold to the nearest
integer, with ties to the even one.

* `roundEven_div`: on a quotient this is the rounding that doubles are printed with;
* `abs_sub_roundEven_le`, `even_roundEven`: the nearest integer, and the even one of two;
* `roundEven_mono`, `round2_mono`: rounding keeps the order.
-/

namespace CallToAction

/-- The integer nearest to a fraction; a tie goes to the even neighbour. -/
def roundEven (x : ℚ) : ℤ :=
  if 1 < 2 * Int.fract x ∨ 2 * Int.fract x = 1 ∧ ⌊x⌋ % 2 = 1 then ⌊x⌋ + 1 else ⌊x⌋

/-- The quotient of natural numbers is rounded in the same way. -/
theorem roundEven_div (n : ℕ) {d : ℕ} (hd : 0 < d) : roundEven (n / d) = roundDiv n d := by
  have hd' : (0 : ℚ) < d := by exact_mod_cast hd
  have floor : ⌊(n / d : ℚ)⌋ = ((n / d : ℕ) : ℤ) := Rat.floor_natCast_div_natCast n d
  have fract : Int.fract (n / d : ℚ) = (n % d : ℕ) / d := by
    have whole : (n : ℚ) = d * (n / d : ℕ) + (n % d : ℕ) := by
      exact_mod_cast (Nat.div_add_mod n d).symm
    rw [Int.fract, floor]
    field_simp
    rw [Int.cast_natCast]
    linarith
  have above : 1 < 2 * Int.fract (n / d : ℚ) ↔ d < 2 * (n % d) := by
    rw [fract, ← mul_div_assoc, one_lt_div hd']
    exact_mod_cast Iff.rfl
  have half : 2 * Int.fract (n / d : ℚ) = 1 ↔ 2 * (n % d) = d := by
    rw [fract, ← mul_div_assoc, div_eq_one_iff_eq hd'.ne']
    exact_mod_cast Iff.rfl
  have odd : ((n / d : ℕ) : ℤ) % 2 = 1 ↔ n / d % 2 = 1 := by omega
  simp only [roundEven, roundDiv, above, half, floor, odd]
  split_ifs <;> simp

section Rounding

variable (x : ℚ)

theorem abs_sub_roundEven_le : |x - roundEven x| ≤ 1 / 2 := by
  have split := Int.floor_add_fract x
  have low := Int.fract_nonneg x
  have high := Int.fract_lt_one x
  unfold roundEven
  rw [abs_le]
  split_ifs with up
  · have : 1 ≤ 2 * Int.fract x := by
      rcases up with h | h
      · exact h.le
      · exact h.1.ge
    push_cast
    constructor <;> linarith
  · have : 2 * Int.fract x ≤ 1 := not_lt.1 (not_or.1 up).1
    constructor <;> linarith

/-- Halfway between two integers the even one is taken. -/
theorem even_roundEven {j : ℤ} (tie : x = j + 1 / 2) : Even (roundEven x) := by
  have half : 2 * Int.fract x = 1 := by
    rw [tie, Int.fract_intCast_add, Int.fract_eq_self.2 ⟨by norm_num, by norm_num⟩]
    norm_num
  unfold roundEven
  split_ifs with up
  · rcases up with h | ⟨-, odd⟩
    · exact absurd h (by rw [half]; exact lt_irrefl 1)
    · exact Int.even_iff.2 (by omega)
  · have : ¬ ⌊x⌋ % 2 = 1 := fun odd => up (.inr ⟨half, odd⟩)
    exact Int.even_iff.2 (by omega)

theorem roundEven_intCast (k : ℤ) : roundEven k = k := by
  simp [roundEven]

variable {x}

/-- What is less than a half away from an integer is rounded to it. -/
theorem roundEven_eq_of_abs_sub_lt {k : ℤ} (h : |x - k| < 1 / 2) : roundEven x = k := by
  obtain ⟨low, high⟩ := abs_lt.1 h
  obtain ⟨low', high'⟩ := abs_le.1 (abs_sub_roundEven_le x)
  have below : roundEven x < k + 1 := by exact_mod_cast (by linarith : (roundEven x : ℚ) < k + 1)
  have above : k < roundEven x + 1 := by exact_mod_cast (by linarith : (k : ℚ) < roundEven x + 1)
  omega

theorem roundEven_mono {y : ℚ} (h : x ≤ y) : roundEven x ≤ roundEven y := by
  rcases h.eq_or_lt with rfl | h
  · exact le_rfl
  · -- both would have to lie halfway between the same two integers, but they differ
    by_contra fall
    have gap : (roundEven y : ℚ) + 1 ≤ roundEven x := by exact_mod_cast not_le.1 fall
    have near := abs_le.1 (abs_sub_roundEven_le x)
    have near' := abs_le.1 (abs_sub_roundEven_le y)
    linarith

end Rounding

/-! ### Hundredths -/

instance : Hundredths ℚ := ⟨fun x => roundEven (100 * x) / 100⟩

section Hundredth

variable {x : ℚ}

theorem round2_eq (x : ℚ) : Hundredths.round2 x = (roundEven (100 * x) / 100 : ℚ) := rfl

theorem abs_sub_round2_le (x : ℚ) : |x - Hundredths.round2 x| ≤ 1 / 200 := by
  have near := abs_le.1 (abs_sub_roundEven_le (100 * x))
  rw [round2_eq, abs_le]
  constructor <;> linarith

theorem round2_mono {y : ℚ} (h : x ≤ y) : Hundredths.round2 x ≤ Hundredths.round2 y := by
  have : (roundEven (100 * x) : ℚ) ≤ roundEven (100 * y) := by
    exact_mod_cast roundEven_mono (by linarith)
  rw [round2_eq, round2_eq]
  linarith

/-- A whole number of hundredths is its own rounding. -/
theorem round2_intCast_div (k : ℤ) : Hundredths.round2 (k / 100 : ℚ) = k / 100 := by
  rw [round2_eq, mul_div_cancel₀ _ (by norm_num : (100 : ℚ) ≠ 0), roundEven_intCast]

theorem round2_intCast (k : ℤ) : Hundredths.round2 (k : ℚ) = k := by
  have whole := round2_intCast_div (100 * k)
  rwa [Int.cast_mul, Int.cast_ofNat, mul_div_cancel_left₀ _ (by norm_num : (100 : ℚ) ≠ 0)] at whole

/-- What is less than half of a hundredth away from a hundredth is rounded to it. -/
theorem round2_eq_of_abs_sub_lt {k : ℤ} (h : |x - k / 100| < 1 / 200) :
    Hundredths.round2 x = k / 100 := by
  have near : |100 * x - k| < 1 / 2 := by
    obtain ⟨low, high⟩ := abs_lt.1 h
    rw [abs_lt]
    constructor <;> linarith
  rw [round2_eq, roundEven_eq_of_abs_sub_lt near]

theorem round2_zero : Hundredths.round2 (0 : ℚ) = 0 := by
  simpa using round2_intCast 0

theorem round2_nonneg (h : 0 ≤ x) : 0 ≤ Hundredths.round2 x := by
  have order := round2_mono h
  rwa [round2_zero] at order

end Hundredth

end CallToAction
