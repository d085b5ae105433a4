import CallToAction.Certainty
import CallToAction.Proofs.Number.Closest
import CallToAction.Proofs.Number.Fixed

/-!
# Doubles rounded to hundredths

A certainty is reported as the double nearest to the nearest hundredth.  Both steps are exact: the
hundredth is closest to the value of the double, and the double is closest to the hundredth.  Where
doubles stand closer than hundredths, the double of a hundredth is less than half of a hundredth
away from it and leads back to it; where they stand farther apart, the hundredth closest to a double
lies in the band of this double.  So rounding twice is rounding once.

* `exists_rounds_round2`: a finite double is rounded to a finite double, in whose band the hundredth
  lies;
* `rounds_round2_of_rounds`: in this band lies the hundredth closest to the new double as well;
* `round2_round2`, `round2_le_round2`: rounding twice, and rounding in order;
* `read_fixed_two`: a double that is written with two places is read back as the rounded double;
* `round2_laws`: what rounding to hundredths does to doubles.
-/

namespace CallToAction

open Binary64 Band

namespace Number

/-! ### Exact hundredths of doubles -/

section Exact

variable {negative : Bool} {m : ℕ} {e : ℤ}

theorem cast_scaled_two (m : ℕ) (e : ℤ) :
    ((scaled 2 m e : ℕ) : ℚ) / 100 = Hundredths.round2 (magnitude m e) := by
  have counted : ((scaled 2 m e : ℕ) : ℤ) = roundEven (100 * magnitude m e) := by
    rw [cast_scaled]
    norm_num
  rw [round2_eq, ← counted, Int.cast_natCast]

/-- A double that is a whole number is its own hundredth. -/
theorem round2_magnitude_of_nonneg (m : ℕ) (h : 0 ≤ e) :
    Hundredths.round2 (magnitude m e) = magnitude m e := by
  obtain ⟨k, rfl⟩ := Int.eq_ofNat_of_zero_le h
  have whole : magnitude m k = ((m * 2 ^ k : ℕ) : ℤ) := by
    rw [magnitude, zpow_natCast]
    push_cast
    rfl
  rw [whole, round2_intCast]

/-- Rounding to hundredths does not lead beyond the greatest double. -/
theorem round2_magnitude_lt_beyond (canonical : (finite negative m e).Canonical) (he : e ≤ 971) :
    Hundredths.round2 (magnitude m e) < beyond := by
  have most : (finite negative (2 ^ 53 - 1) 971).Canonical := ⟨by omega, by omega⟩
  have greatest : magnitude m e ≤ magnitude (2 ^ 53 - 1) 971 := by
    have short := canonical.1
    rcases less_trichotomy m (2 ^ 53 - 1) e 971 with less | ⟨rfl, rfl⟩ | greater
    · exact (magnitude_lt_of_less canonical most less).le
    · exact le_rfl
    · omega
  calc Hundredths.round2 (magnitude m e) ≤ Hundredths.round2 (magnitude (2 ^ 53 - 1) 971) :=
        round2_mono greatest
    _ = magnitude (2 ^ 53 - 1) 971 := round2_magnitude_of_nonneg _ (by norm_num)
    _ < beyond := magnitude_lt_upper _ _

/-- The hundredth closest to a double in whose band a hundredth lies, lies in this band. -/
theorem rounds_round2_of_rounds {k : ℤ} (rounds : Rounds m e (k / 100)) :
    Rounds m e (Hundredths.round2 (magnitude m e)) := by
  obtain ⟨low, high⟩ := rounds.between
  rcases lt_or_ge e (-6) with fine | coarse
  · -- doubles are close, so the hundredth is the one that the double was closest to
    have unit : (2 : ℚ) ^ e ≤ 1 / 128 := by
      calc (2 : ℚ) ^ e ≤ 2 ^ (-7 : ℤ) := zpow_le_zpow_right₀ (by norm_num) (by omega)
        _ = 1 / 128 := by norm_num
    have reach : reach m e * 2 ^ e ≤ 1 / 2 * 2 ^ e :=
      mul_le_mul_of_nonneg_right (reach_le m e) (by positivity)
    have near : |magnitude m e - k / 100| < 1 / 200 := by
      rw [lower_eq] at low
      rw [upper_eq] at high
      rw [abs_lt]
      constructor <;> linarith
    rwa [round2_eq_of_abs_sub_lt near]
  · by_cases power : m = 2 ^ 52 ∧ -1074 < e
    · -- the band is short below a power of two, but this one is a whole number
      have whole : magnitude m e = magnitude 1 (e + 52) := by
        rw [magnitude, magnitude, power.1, zpow_add₀ (by norm_num)]
        push_cast
        ring
      rw [whole, round2_magnitude_of_nonneg 1 (by omega), ← whole]
      exact rounds_of_between (lower_lt_magnitude m e) (magnitude_lt_upper m e)
    · -- hundredths are close, so there is one in the band
      have unit : 1 / 64 ≤ (2 : ℚ) ^ e := by
        calc (1 / 64 : ℚ) = 2 ^ (-6 : ℤ) := by norm_num
          _ ≤ 2 ^ e := zpow_le_zpow_right₀ (by norm_num) coarse
      have near := abs_le.1 (abs_sub_round2_le (magnitude m e))
      have half : reach m e = 1 / 2 := if_neg power
      refine rounds_of_between ?_ ?_
      · rw [lower_eq, half]
        linarith
      · rw [upper_eq]
        linarith

end Exact

/-! ### Rounded doubles -/

theorem round2_of_not_isFinite {v : Float} (h : v.isFinite = false) : round2 v = v := by
  unfold round2
  split
  · next negative m e parts =>
    exact absurd ((isFinite_iff v).2 ⟨negative, m, e, parts⟩) (by simp [h])
  · rfl

/-- A finite double is rounded to a finite one of its sign, in whose band the closest hundredth
lies. -/
theorem exists_rounds_round2 {v : Float} {negative : Bool} {m : ℕ} {e : ℤ}
    (parts : ofFloat v = .finite negative m e) :
    ∃ m' e', ofFloat (round2 v) = .finite negative m' e' ∧
      Rounds m' e' (Hundredths.round2 (magnitude m e)) := by
  have canonical : (finite negative m e).Canonical := parts ▸ canonical_ofFloat v
  have found : round2 v = nearest negative (scaled 2 m e) 100 := by rw [round2, parts]
  have near := nearest_nearest negative (scaled 2 m e) (d := 100) (by norm_num)
  rw [Nat.cast_ofNat, cast_scaled_two, ← found] at near
  cases target : ofFloat (round2 v) with
  | nan =>
    rw [target] at near
    exact near.elim
  | infinity negative' =>
    rw [target] at near
    exact absurd near.2 (round2_magnitude_lt_beyond canonical (exponent_le parts)).not_ge
  | finite negative' m' e' =>
    rw [target] at near
    obtain ⟨rfl, rounds⟩ := near
    exact ⟨m', e', rfl, rounds⟩

theorem isFinite_round2 {v : Float} (h : v.isFinite = true) : (round2 v).isFinite = true := by
  obtain ⟨negative, m, e, parts⟩ := (isFinite_iff v).1 h
  obtain ⟨m', e', parts', -⟩ := exists_rounds_round2 parts
  exact (isFinite_iff _).2 ⟨negative, m', e', parts'⟩

/-- Rounding twice is rounding once. -/
theorem round2_round2 (v : Float) : round2 (round2 v) = round2 v := by
  cases finite : v.isFinite with
  | false => rw [round2_of_not_isFinite finite, round2_of_not_isFinite finite]
  | true =>
    obtain ⟨negative, m, e, parts⟩ := (isFinite_iff v).1 finite
    obtain ⟨m', e', parts', rounds⟩ := exists_rounds_round2 parts
    obtain ⟨m'', e'', parts'', rounds'⟩ := exists_rounds_round2 parts'
    rw [round2_eq] at rounds
    -- both are the double in whose band the second hundredth lies
    obtain ⟨rfl, rfl⟩ := eq_of_rounds (parts' ▸ canonical_ofFloat _) (parts'' ▸ canonical_ofFloat _)
      (rounds_round2_of_rounds rounds) rounds'
    exact ofFloat_injective (parts''.trans parts'.symm)

/-! ### Order -/

/-- Finite doubles are rounded in order. -/
theorem value_round2_le {v w : Float} (hv : v.isFinite = true) (hw : w.isFinite = true)
    (h : value v ≤ value w) : value (round2 v) ≤ value (round2 w) := by
  obtain ⟨n, m, e, parts⟩ := (isFinite_iff v).1 hv
  obtain ⟨n', m', e', parts'⟩ := (isFinite_iff w).1 hw
  obtain ⟨M, E, rounded, rounds⟩ := exists_rounds_round2 parts
  obtain ⟨M', E', rounded', rounds'⟩ := exists_rounds_round2 parts'
  have canonical : (finite n M E).Canonical := rounded ▸ canonical_ofFloat _
  have canonical' : (finite n' M' E').Canonical := rounded' ▸ canonical_ofFloat _
  have size := magnitude_nonneg M E
  have size' := magnitude_nonneg M' E'
  rw [value_of_parts parts, value_of_parts parts'] at h
  rw [value_of_parts rounded, value_of_parts rounded']
  cases n <;> cases n' <;> simp only [withSign, Bool.false_eq_true, if_false, if_true] at h ⊢
  · exact magnitude_le_of_rounds canonical canonical' rounds rounds' (round2_mono h)
  · -- only zeros of both signs are in this order
    have none : magnitude m e = 0 := by linarith [magnitude_nonneg m e, magnitude_nonneg m' e']
    have none' : magnitude m' e' = 0 := by linarith [magnitude_nonneg m e, magnitude_nonneg m' e']
    rw [none, round2_zero] at rounds
    rw [none', round2_zero] at rounds'
    rw [magnitude_eq_zero_of_rounds canonical rounds,
      magnitude_eq_zero_of_rounds canonical' rounds', neg_zero]
  · linarith
  · exact neg_le_neg (magnitude_le_of_rounds canonical' canonical rounds' rounds
      (round2_mono (neg_le_neg_iff.1 h)))

/-- Doubles are rounded in order. -/
theorem round2_le_round2 {v w : Float} (h : v ≤ w) : round2 v ≤ round2 w := by
  cases hv : v.isFinite with
  | false =>
    rw [round2_of_not_isFinite hv]
    cases hw : w.isFinite with
    | false => rwa [round2_of_not_isFinite hw]
    | true => exact le_of_not_isFinite_left hv hw h (isFinite_round2 hw)
  | true =>
    cases hw : w.isFinite with
    | false =>
      rw [round2_of_not_isFinite hw]
      exact le_of_not_isFinite_right hv hw h (isFinite_round2 hv)
    | true =>
      rw [le_iff_value hv hw] at h
      exact (le_iff_value (isFinite_round2 hv) (isFinite_round2 hw)).2 (value_round2_le hv hw h)

/-! ### Closest hundredths and closest doubles -/

theorem hundredth_roundEven (x : ℚ) : hundredth (roundEven (100 * x)) = Hundredths.round2 x := rfl

/-- A finite double is rounded to the double closest to the hundredth closest to it. -/
theorem exists_closest_round2 (v : Finite) :
    ∃ (k : ℤ) (r : Finite), r.1 = round2 v.1 ∧ Closest hundredth Even v.value k ∧
      Closest Finite.value Finite.IsEven (hundredth k) r ∧
      (ofFloat r.1).isNegative = (ofFloat v.1).isNegative := by
  obtain ⟨negative, m, e, parts⟩ := (isFinite_iff v.1).1 v.2
  obtain ⟨m', e', parts', rounds⟩ := exists_rounds_round2 parts
  let r : Finite := ⟨round2 v.1, isFinite_round2 v.2⟩
  have closest := closest_hundredth (magnitude m e)
  have found : Closest Finite.value Finite.IsEven
      (withSign negative (hundredth (roundEven (100 * magnitude m e)))) r := by
    rw [hundredth_roundEven]
    exact closest_of_rounds parts' rounds (round2_nonneg (magnitude_nonneg m e))
  have place : v.value = withSign negative (magnitude m e) := value_of_parts parts
  have signs : (ofFloat r.1).isNegative = (ofFloat v.1).isNegative := by
    rw [parts, parts']
    rfl
  rw [place]
  cases negative with
  | false => exact ⟨roundEven (100 * magnitude m e), r, rfl, closest, found, signs⟩
  | true =>
    refine ⟨-roundEven (100 * magnitude m e), r, rfl, closest.neg, ?_, signs⟩
    rw [hundredth_neg]
    exact found

/-- The double that is written `1.005` lies below the middle; `0.125` lies in the middle. -/
example : round2 1.005 = 1 ∧ round2 0.125 = 0.12 := by decide +kernel

/-! ### Two decimal places -/

/-- What is written with two places is read back as the rounded double. -/
theorem read_fixed_two (v : Float) : read (fixed 2 v) = .ok (round2 v) := by
  cases parts : ofFloat v with
  | nan =>
    have same : (0.0 / 0.0 : Float) = v := ofFloat_injective (Eq.trans (by decide) parts.symm)
    rw [fixed, round2, parts, ← same]
    rfl
  | infinity negative =>
    have same : infinite negative = v :=
      ofFloat_injective ((ofFloat_infinite negative).trans parts.symm)
    rw [fixed, round2, parts, ← same]
    cases negative <;> rfl
  | finite negative m e =>
    obtain ⟨m', e', parts', rounds⟩ := exists_rounds_round2 parts
    have value : (⟨scaled 2 m e, -2⟩ : Decimal).value = Hundredths.round2 (magnitude m e) := by
      rw [← cast_scaled_two, Decimal.value, div_eq_mul_inv]
      norm_num
    have found : ofDecimal negative (scaled 2 m e) (-2) = round2 v :=
      ofDecimal_eq_of_rounds (d := ⟨scaled 2 m e, -2⟩) parts' (value ▸ rounds)
    rw [read_fixed parts]
    exact congrArg _ found

/-! ### The laws of rounding -/

/-- **Doubles rounded to hundredths.**  A finite double becomes the double closest to the hundredth
closest to it, with ties to even in both steps, and keeps its sign, that of zero included; other
doubles stay as they are.  So rounding twice is rounding once, and rounding keeps the order.  The
rounded double is what is read back from the text with two decimal places. -/
theorem round2_laws :
    (∀ v : Finite, ∃ (k : ℤ) (r : Finite), r.1 = round2 v.1 ∧ Closest hundredth Even v.value k ∧
        Closest Finite.value Finite.IsEven (hundredth k) r ∧
        (ofFloat r.1).isNegative = (ofFloat v.1).isNegative) ∧
      (∀ v : Float, v.isFinite = false → round2 v = v) ∧
      (∀ v : Float, round2 (round2 v) = round2 v) ∧
      (∀ v w : Float, v ≤ w → round2 v ≤ round2 w) ∧
      ∀ v : Float, read (fixed 2 v) = .ok (round2 v) :=
  ⟨exists_closest_round2, fun _ => round2_of_not_isFinite, round2_round2,
    fun _ _ => round2_le_round2, read_fixed_two⟩

/-- Infinity stays as it is, and a negative number just below zero does not come above a tie. -/
theorem round2_laws_tie :
    ((1 / 0 : Float).isFinite = false ∧ round2 (1 / 0) = 1 / 0) ∧
      ((-0.001 : Float) ≤ 0.125 ∧ round2 (-0.001) ≤ round2 0.125) :=
  ⟨⟨by decide, round2_laws.2.1 _ (by decide)⟩,
    ⟨by decide, round2_laws.2.2.2.1 _ _ (by decide)⟩⟩

end Number

end CallToAction
