import CallToAction.Proofs.Number.Nearest

/-!
# The closest point of a grid

To round a fraction is to go to the closest point of a grid, and to an even one where another point
is equally close.  The whole hundredths are such a grid, and so are the finite doubles.  The
rounding of fractions to hundredths and the search for the nearest double both do this, which is
said here without the means by which they find the point.

* `Closest`: a point of a grid that a fraction is rounded to;
* `closest_hundredth`: exact rounding finds the closest hundredth;
* `Binary64.closest_of_rounds`: the double in whose band a real lies is the closest one;
* `Binary64.magnitude_le_of_rounds`: a greater real does not round to a smaller double.
-/

namespace CallToAction

/-- A point of a grid is closest to a fraction; where another point is equally close, it is an even
one. -/
structure Closest {ι : Type} (point : ι → ℚ) (even : ι → Prop) (x : ℚ) (i : ι) : Prop where
  closest : ∀ j, |x - point i| ≤ |x - point j|
  tie : ∀ j, point j ≠ point i → |x - point j| = |x - point i| → even i

/-! ### Distances -/

section Distance

variable {x a b : ℚ}

/-- One point is no farther than another one if it lies on the same side of the middle. -/
theorem abs_sub_le_abs_sub_iff : |x - a| ≤ |x - b| ↔ 0 ≤ (b - a) * (a + b - 2 * x) := by
  have squares : (x - b) ^ 2 - (x - a) ^ 2 = (b - a) * (a + b - 2 * x) := by ring
  rw [← sq_le_sq, ← sub_nonneg, squares]

/-- Only the middle between two points is equally close to both. -/
theorem two_mul_eq_of_abs_sub_eq (ne : b ≠ a) (h : |x - b| = |x - a|) : 2 * x = a + b := by
  rcases abs_eq_abs.1 h with same | opposed
  · exact absurd (by linarith) ne
  · linarith

end Distance

/-! ### Hundredths -/

/-- A whole number of hundredths. -/
def hundredth (k : ℤ) : ℚ := k / 100

theorem abs_sub_hundredth (x : ℚ) (k : ℤ) : |x - hundredth k| = |100 * x - k| / 100 := by
  have scaled : x - hundredth k = (100 * x - k) / 100 := by
    rw [hundredth]
    ring
  rw [scaled, abs_div, abs_of_pos (by norm_num : (0 : ℚ) < 100)]

/-- Two integers are at least one apart, so one of them is half of that away from a fraction. -/
theorem one_le_abs_sub_add {x : ℚ} {j k : ℤ} (ne : j ≠ k) : 1 ≤ |x - k| + |x - j| := by
  have apart : (1 : ℚ) ≤ |(k : ℚ) - j| := by exact_mod_cast Int.one_le_abs (sub_ne_zero.2 ne.symm)
  calc (1 : ℚ) ≤ |(k : ℚ) - j| := apart
    _ ≤ |(k : ℚ) - x| + |x - j| := abs_sub_le _ _ _
    _ = |x - k| + |x - j| := by rw [abs_sub_comm]

/-- Exact rounding finds the closest hundredth. -/
theorem closest_hundredth (x : ℚ) : Closest hundredth Even x (roundEven (100 * x)) := by
  have near := abs_sub_roundEven_le (100 * x)
  refine ⟨fun j => ?_, fun j other equal => ?_⟩
  · rw [abs_sub_hundredth, abs_sub_hundredth]
    refine div_le_div_of_nonneg_right ?_ (by norm_num)
    by_cases same : j = roundEven (100 * x)
    · rw [same]
    · linarith [one_le_abs_sub_add (x := 100 * x) same]
  · have ne : j ≠ roundEven (100 * x) := fun same => other (by rw [same])
    rw [abs_sub_hundredth, abs_sub_hundredth] at equal
    -- both are half a hundredth away
    have half : |100 * x - roundEven (100 * x)| = 1 / 2 := by
      linarith [one_le_abs_sub_add (x := 100 * x) ne]
    rcases (abs_eq (by norm_num)).1 half with above | below
    · exact even_roundEven (j := roundEven (100 * x)) _ (by linarith)
    · exact even_roundEven (j := roundEven (100 * x) - 1) _ (by push_cast; linarith)

theorem hundredth_neg (k : ℤ) : hundredth (-k) = -hundredth k := by
  rw [hundredth, hundredth, Int.cast_neg, neg_div]

/-- The closest hundredth of the opposite is the opposite one. -/
theorem Closest.neg {x : ℚ} {k : ℤ} (h : Closest hundredth Even x k) :
    Closest hundredth Even (-x) (-k) := by
  have mirrored (j : ℤ) : |-x - hundredth j| = |x - hundredth (-j)| := by
    rw [hundredth_neg, ← abs_neg]
    congr 1
    ring
  refine ⟨fun j => ?_, fun j other equal => even_neg.2 (h.tie (-j) ?_ ?_)⟩
  · rw [mirrored, mirrored, neg_neg]
    exact h.closest (-j)
  · rw [hundredth_neg] at other ⊢
    exact fun same => other (by rw [← same, neg_neg])
  · rwa [mirrored, mirrored, neg_neg] at equal

namespace Number

/-! ### Finite doubles -/

/-- A finite double. -/
def Finite : Type := {v : Float // v.isFinite = true}

/-- The value of a finite double. -/
def Finite.value (v : Finite) : ℚ := Number.value v.1

end Number

namespace Binary64

/-- The mantissa of a finite double. -/
def mantissa : Binary64 → ℕ
  | finite _ m _ => m
  | _ => 0

/-- The sign of a double, which a zero has as well. -/
def isNegative : Binary64 → Bool
  | finite negative _ _ => negative
  | infinity negative => negative
  | nan => false

/-- A size with a sign. -/
def withSign (negative : Bool) (x : ℚ) : ℚ := if negative then -x else x

theorem withSign_withSign (n n' : Bool) (x : ℚ) :
    withSign n (withSign n' x) = withSign (n ^^ n') x := by
  cases n <;> cases n' <;> simp [withSign]

theorem withSign_injective (n : Bool) : Function.Injective (withSign n) := by
  cases n with
  | false => exact fun _ _ same => same
  | true => exact neg_injective

theorem abs_withSign_sub (n : Bool) (x y : ℚ) : |withSign n x - y| = |x - withSign n y| := by
  cases n with
  | false => rfl
  | true =>
    rw [← abs_neg]
    congr 1
    simp only [withSign, if_true]
    ring

end Binary64

namespace Number

theorem value_of_parts {v : Float} {negative : Bool} {m : ℕ} {e : ℤ}
    (parts : Binary64.ofFloat v = .finite negative m e) :
    value v = Binary64.withSign negative (Binary64.magnitude m e) := by
  rw [value, parts]
  rfl

/-- A finite double with an even mantissa. -/
def Finite.IsEven (v : Finite) : Prop := Even (Binary64.ofFloat v.1).mantissa

end Number

namespace Binary64

open Band

section Bands

variable {n n' : Bool} {m m' : ℕ} {e e' : ℤ} {x x' : ℚ}

theorem magnitude_nonneg (m : ℕ) (e : ℤ) : 0 ≤ magnitude m e := by
  unfold magnitude
  positivity

/-- A greater real does not round to a smaller double. -/
theorem magnitude_le_of_rounds (h : (finite n m e).Canonical) (h' : (finite n' m' e').Canonical)
    (rounds : Rounds m e x) (rounds' : Rounds m' e' x') (le : x ≤ x') :
    magnitude m e ≤ magnitude m' e' := by
  rcases less_trichotomy m m' e e' with less | ⟨rfl, rfl⟩ | greater
  · exact (magnitude_lt_of_less h h' less).le
  · exact le_rfl
  · -- the bands have at most an end in common, where the reals would have to be the same
    have apart := (upper_le_lower h' h greater).1
    have same : x = x' := le_antisymm le (rounds'.between.2.trans (apart.trans rounds.between.1))
    exact absurd (same ▸ rounds) (not_rounds_of_less h' h greater rounds')

theorem canonical_zero (n : Bool) : (finite n 0 (-1074)).Canonical := ⟨by norm_num, .inl rfl⟩

theorem magnitude_eq_zero_of_rounds (h : (finite n m e).Canonical) (rounds : Rounds m e 0) :
    magnitude m e = 0 := by
  have none := magnitude_le_of_rounds h (canonical_zero n) rounds (rounds_zero _) le_rfl
  rw [magnitude_zero] at none
  exact le_antisymm none (magnitude_nonneg m e)

/-- No double is closer to a real than the one in whose band it lies. -/
theorem abs_sub_magnitude_le (h : (finite n m e).Canonical) (h' : (finite n' m' e').Canonical)
    (rounds : Rounds m e x) :
    |x - magnitude m e| ≤ |x - magnitude m' e'| ∧
      (magnitude m' e' ≠ magnitude m e → |x - magnitude m' e'| = |x - magnitude m e| →
        m % 2 = 0) := by
  obtain ⟨low, high⟩ := rounds.between
  rcases less_trichotomy m m' e e' with less | ⟨rfl, rfl⟩ | greater
  · have middle := (two_mul_upper_le h h' less).1
    have order := magnitude_lt_of_less h h' less
    refine ⟨abs_sub_le_abs_sub_iff.2 (mul_nonneg (by linarith) (by linarith)), fun ne equal => ?_⟩
    have tie := two_mul_eq_of_abs_sub_eq ne equal
    exact rounds.even_of_eq (.inr (by linarith))
  · exact ⟨le_rfl, fun ne => absurd rfl ne⟩
  · have middle := le_two_mul_lower h' h greater
    have order := magnitude_lt_of_less h' h greater
    refine ⟨abs_sub_le_abs_sub_iff.2 (mul_nonneg_of_nonpos_of_nonpos (by linarith) (by linarith)),
      fun ne equal => ?_⟩
    have tie := two_mul_eq_of_abs_sub_eq ne equal
    exact rounds.even_of_eq (.inl (by linarith))

/-- The same among doubles of either sign, for a real that is not negative. -/
theorem abs_sub_withSign_le (h : (finite n m e).Canonical) (h' : (finite n' m' e').Canonical)
    (rounds : Rounds m e x) (nonneg : 0 ≤ x) (s : Bool) :
    |x - magnitude m e| ≤ |x - withSign s (magnitude m' e')| ∧
      (withSign s (magnitude m' e') ≠ magnitude m e →
        |x - withSign s (magnitude m' e')| = |x - magnitude m e| → m % 2 = 0) := by
  cases s with
  | false => exact abs_sub_magnitude_le h h' rounds
  | true =>
    -- zero is closer than any double on the other side
    obtain ⟨closer, tie⟩ := abs_sub_magnitude_le h (canonical_zero false) rounds
    rw [magnitude_zero, sub_zero, abs_of_nonneg nonneg] at closer tie
    have size := magnitude_nonneg m' e'
    have far : |x - withSign true (magnitude m' e')| = x + magnitude m' e' := by
      rw [withSign, if_pos rfl, sub_neg_eq_add, abs_of_nonneg (add_nonneg nonneg size)]
    rw [far]
    refine ⟨by linarith, fun ne equal => ?_⟩
    have none : magnitude m' e' = 0 := by linarith
    rw [none, withSign, if_pos rfl, neg_zero] at ne
    exact tie ne (by linarith)

/-- **The double in whose band a real lies is the closest one**, and an even one of two. -/
theorem closest_of_rounds {v : Number.Finite} (parts : ofFloat v.1 = finite n m e)
    (rounds : Rounds m e x) (nonneg : 0 ≤ x) :
    Closest Number.Finite.value Number.Finite.IsEven (withSign n x) v := by
  have canonical : (finite n m e).Canonical := parts ▸ canonical_ofFloat v.1
  have place : withSign n v.value = magnitude m e := by
    rw [Number.Finite.value, Number.value_of_parts parts, withSign_withSign, Bool.xor_self]
    rfl
  have others (w : Number.Finite) : ∃ s n' m' e', (finite n' m' e').Canonical ∧
      withSign n w.value = withSign s (magnitude m' e') := by
    obtain ⟨n', m', e', parts'⟩ := (isFinite_iff w.1).1 w.2
    refine ⟨n ^^ n', n', m', e', parts' ▸ canonical_ofFloat w.1, ?_⟩
    rw [Number.Finite.value, Number.value_of_parts parts', withSign_withSign]
  refine ⟨fun w => ?_, fun w other equal => ?_⟩
  · obtain ⟨s, n', m', e', canonical', place'⟩ := others w
    rw [abs_withSign_sub, abs_withSign_sub, place, place']
    exact (abs_sub_withSign_le canonical canonical' rounds nonneg s).1
  · obtain ⟨s, n', m', e', canonical', place'⟩ := others w
    rw [abs_withSign_sub, abs_withSign_sub, place, place'] at equal
    have ne : withSign s (magnitude m' e') ≠ magnitude m e := by
      rw [← place, ← place']
      exact fun same => other (withSign_injective n same)
    have even := (abs_sub_withSign_le canonical canonical' rounds nonneg s).2 ne equal
    rw [Number.Finite.IsEven, parts]
    exact Nat.even_iff.2 even

end Bands

end Binary64

end CallToAction
