import CallToAction.Proofs.Number.Hundredths
import CallToAction.Proofs.Number.Shortest

/-!
# The nearest double

`Binary64.nearest` finds the double that a fraction rounds to: the one in whose band it lies, and
infinity from halfway beyond the greatest double on.

* `binaryExponent_bounds`: the exponent of a fraction;
* `ofFloat_word`: a word taken apart, for every word that is not one of no number;
* `nearest_nearest`: the double that is found is the nearest one;
* `ofDecimal_eq_of_rounds`: a decimal that rounds to a double is valued as this double.
-/

namespace CallToAction

namespace Binary64

open Band

/-! ### Nearest doubles -/

/-- Halfway between the greatest double and the next power of two. -/
def beyond : ℚ := upper (2 ^ 53 - 1) 971

/-- A double is the nearest one to a size with a sign. -/
def Nearest (negative : Bool) (x : ℚ) : Binary64 → Prop
  | finite n m e => n = negative ∧ Rounds m e x
  | infinity n => n = negative ∧ beyond ≤ x
  | nan => False

theorem beyond_le : beyond ≤ 2 ^ (1024 : ℤ) := by
  calc beyond ≤ 2 ^ (53 : ℤ) * 2 ^ (971 : ℤ) := by
        refine mul_le_mul_of_nonneg_right ?_ (by positivity)
        norm_num
    _ = 2 ^ (1024 : ℤ) := by
        rw [← zpow_add₀ (by norm_num)]
        norm_num only

/-! ### The exponent of a fraction -/

section Exponent

variable {n d : ℕ} (hn : 0 < n) (hd : 0 < d)

include hn hd

theorem binaryExponent_bounds :
    (2 : ℚ) ^ binaryExponent n d ≤ n / d ∧ (n / d : ℚ) < 2 ^ (binaryExponent n d + 1) := by
  have hd' : (0 : ℚ) < d := by exact_mod_cast hd
  have low_n : (2 : ℚ) ^ n.log2 ≤ n := by exact_mod_cast Nat.log2_self_le hn.ne'
  have high_n : (n : ℚ) < 2 ^ (n.log2 + 1) := by exact_mod_cast Nat.lt_log2_self
  have low_d : (2 : ℚ) ^ d.log2 ≤ d := by exact_mod_cast Nat.log2_self_le hd.ne'
  have high_d : (d : ℚ) < 2 ^ (d.log2 + 1) := by exact_mod_cast Nat.lt_log2_self
  set guess : ℤ := (n.log2 : ℤ) - d.log2 with guess_eq
  -- the lengths of the words leave two exponents to choose from
  have low : (2 : ℚ) ^ (guess - 1) ≤ n / d := by
    rw [le_div_iff₀ hd']
    calc (2 : ℚ) ^ (guess - 1) * d ≤ 2 ^ (guess - 1) * 2 ^ (d.log2 + 1) :=
          mul_le_mul_of_nonneg_left high_d.le (by positivity)
      _ = 2 ^ n.log2 := by
          rw [← zpow_natCast, ← zpow_natCast, ← zpow_add₀ (by norm_num)]
          congr 1
          push_cast
          omega
      _ ≤ n := low_n
  have high : (n / d : ℚ) < 2 ^ (guess + 1) := by
    rw [div_lt_iff₀ hd']
    calc (n : ℚ) < 2 ^ (n.log2 + 1) := high_n
      _ = 2 ^ (guess + 1) * 2 ^ d.log2 := by
          rw [← zpow_natCast, ← zpow_natCast, ← zpow_add₀ (by norm_num)]
          congr 1
          push_cast
          omega
      _ ≤ 2 ^ (guess + 1) * d := mul_le_mul_of_nonneg_left low_d (by positivity)
  have test : n * twoTo (-guess).toNat < d * twoTo guess.toNat ↔ (n / d : ℚ) < 2 ^ guess := by
    have one : (0 : ℚ) < (twoTo (-guess).toNat : ℕ) := by exact_mod_cast twoTo_pos _
    have scaled : ((d * twoTo guess.toNat : ℕ) : ℚ) =
        2 ^ guess * d * (twoTo (-guess).toNat : ℕ) := by
      rw [Nat.cast_mul, cast_twoTo, cast_twoTo, ← zpow_mul_pow_toNat (by norm_num)]
      ring
    rw [div_lt_iff₀ hd', ← Nat.cast_lt (α := ℚ), scaled, Nat.cast_mul, mul_lt_mul_iff_left₀ one]
  unfold binaryExponent
  rw [← guess_eq]
  dsimp only
  split_ifs with less
  · refine ⟨low, ?_⟩
    rw [sub_add_cancel]
    exact test.1 less
  · exact ⟨not_lt.1 (mt test.2 less), high⟩

end Exponent

/-! ### Whole numbers -/

/-- A whole number is nearest to a fraction, and even if another one is as near. -/
structure Rounded (y : ℚ) (m : ℕ) : Prop where
  low : m - 1 / 2 ≤ y
  high : y ≤ m + 1 / 2
  odd : m % 2 = 1 → m - 1 / 2 < y ∧ y < m + 1 / 2

theorem rounded_roundDiv (n : ℕ) {d : ℕ} (hd : 0 < d) : Rounded (n / d) (roundDiv n d) := by
  have rounding := roundEven_div n hd
  have near := abs_le.1 (abs_sub_roundEven_le (n / d : ℚ))
  rw [rounding, Int.cast_natCast] at near
  have tie (j : ℤ) (h : (n / d : ℚ) = j + 1 / 2) : roundDiv n d % 2 = 0 := by
    have even := even_roundEven (n / d : ℚ) h
    rw [rounding] at even
    exact Nat.even_iff.1 (by exact_mod_cast even)
  refine ⟨by linarith, by linarith, fun odd => ⟨?_, ?_⟩⟩
  · refine lt_of_le_of_ne (by linarith) fun h => ?_
    have := tie (roundDiv n d - 1) (by push_cast; linarith)
    omega
  · refine lt_of_le_of_ne (by linarith) fun h => ?_
    have := tie (roundDiv n d) (by push_cast; linarith)
    omega

/-- What rounds to a mantissa in units of the last place rounds to the double with this mantissa. -/
theorem Rounded.rounds {y : ℚ} {m : ℕ} (h : Rounded y m) (e : ℤ)
    (power : m = 2 ^ 52 → -1074 < e → (m : ℚ) ≤ y) : Rounds m e (y * 2 ^ e) := by
  have unit : (0 : ℚ) < 2 ^ e := by positivity
  have low : (m : ℚ) - reach m e ≤ y := by
    unfold reach
    split_ifs with long
    · have := power long.1 long.2
      linarith
    · exact h.low
  unfold Rounds lower upper
  split_ifs with even
  · exact ⟨mul_le_mul_of_nonneg_right low unit.le, mul_le_mul_of_nonneg_right h.high unit.le⟩
  · obtain ⟨below, above⟩ := h.odd (by omega)
    have reach_eq : reach m e = 1 / 2 := if_neg fun long => even (by rw [long.1]; norm_num)
    rw [reach_eq]
    exact ⟨mul_lt_mul_of_pos_right below unit, mul_lt_mul_of_pos_right above unit⟩

/-- Rounding to a mantissa of one bit too many leads to the next power of two. -/
theorem rounds_carried {y : ℚ} {e : ℤ} (low : 2 ^ 53 - 1 / 2 ≤ y) (high : y < 2 ^ 53)
    (above : -1074 < e + 1) : Rounds (2 ^ 52) (e + 1) (y * 2 ^ e) := by
  have unit : (0 : ℚ) < 2 ^ e := by positivity
  have step : (2 : ℚ) ^ (e + 1) = 2 * 2 ^ e := by rw [zpow_add_one₀ (by norm_num), mul_comm]
  unfold Rounds lower upper
  rw [if_pos (by norm_num), reach, if_pos ⟨rfl, above⟩, step, ← mul_assoc, ← mul_assoc]
  constructor
  · refine mul_le_mul_of_nonneg_right ?_ unit.le
    push_cast
    linarith
  · refine mul_le_mul_of_nonneg_right ?_ unit.le
    push_cast
    linarith

/-! ### Words -/

theorem toBits_ofBits {b : UInt64}
    (number : b.toNat / 2 ^ 52 % 2 ^ 11 = 2047 → b.toNat % 2 ^ 52 = 0) :
    (Float.ofBits b).toBits = b := by
  have valid : Float.Model.Format.binary64.Valid b.toBitVec :=
    ⟨fun full fraction =>
      absurd ((mantissa_zero b.toBitVec).2 (number ((exponent_full b.toBitVec).1 full))) fraction⟩
  have same : Float.ofBits b = .ofModel ⟨b, valid⟩ := Float.ofBits_toBits (.ofModel ⟨b, valid⟩)
  rw [same]
  rfl

/-- A word that is not beyond that of infinity, taken apart. -/
theorem ofFloat_word (negative : Bool) {w : ℕ} (hw : w ≤ 2047 * 2 ^ 52) :
    ofFloat (.ofBits (.ofNat ((if negative then twoTo 63 else 0) + w))) =
      if w / 2 ^ 52 = 2047 then .infinity negative
      else if w / 2 ^ 52 = 0 then .finite negative (w % 2 ^ 52) (-1074)
      else .finite negative (2 ^ 52 + w % 2 ^ 52) ((w / 2 ^ 52 : ℕ) - 1075) := by
  set bits : ℕ := (if negative then twoTo 63 else 0) + w with bits_eq
  have sign : (if negative then twoTo 63 else 0) = if negative then 2 ^ 63 else 0 := rfl
  rw [sign] at bits_eq
  have toNat : (UInt64.ofNat bits).toNat = bits := by
    rw [UInt64.toNat_ofNat']
    refine Nat.mod_eq_of_lt ?_
    rw [bits_eq]
    split_ifs <;> omega
  have field : bits / 2 ^ 52 % 2 ^ 11 = w / 2 ^ 52 := by
    rw [bits_eq]
    split_ifs <;> omega
  have fraction : bits % 2 ^ 52 = w % 2 ^ 52 := by
    rw [bits_eq]
    split_ifs <;> omega
  have top : (bits / 2 ^ 63 % 2 == 1) = negative := by
    rw [bits_eq]
    cases negative
    · simp only [Bool.false_eq_true, if_false, beq_eq_false_iff_ne]
      omega
    · simp only [if_true, beq_iff_eq]
      omega
  have number : (UInt64.ofNat bits).toNat / 2 ^ 52 % 2 ^ 11 = 2047 →
      (UInt64.ofNat bits).toNat % 2 ^ 52 = 0 := by
    rw [toNat, field, fraction]
    intro full
    omega
  rw [ofFloat_eq, toBits_ofBits number, toNat]
  simp only [field, fraction, top]
  split_ifs with full odd
  · rfl
  · omega
  · rfl
  · rfl

/-- A quotient that was rounded to a mantissa makes the word of the nearest double, also where the
mantissa has become too long. -/
theorem nearest_word (negative : Bool) {k m : ℕ} {y : ℚ} (h : Rounded y m) (hk : k ≤ 2045)
    (hm : m ≤ 2 ^ 53) (long : 0 < k → (2 : ℚ) ^ 52 ≤ y) (short : y < 2 ^ 53) :
    Nearest negative (y * 2 ^ ((k : ℤ) - 1074))
      (ofFloat (.ofBits (.ofNat ((if negative then twoTo 63 else 0) + (k * twoTo 52 + m))))) := by
  have long_m : 0 < k → 2 ^ 52 ≤ m := by
    intro pos
    have high := (long pos).trans h.high
    by_contra less
    have : (m : ℚ) + 1 ≤ 2 ^ 52 := by exact_mod_cast not_le.1 less
    linarith
  have word : k * twoTo 52 + m = k * 2 ^ 52 + m := rfl
  rw [word, ofFloat_word negative (by omega)]
  rcases Nat.lt_or_ge m (2 ^ 52) with small | large
  · obtain rfl : k = 0 := by
      by_contra some
      have := long_m (Nat.pos_of_ne_zero some)
      omega
    rw [if_neg (by omega), if_pos (by omega), Nat.zero_mul, Nat.zero_add,
      Nat.mod_eq_of_lt small]
    exact ⟨rfl, h.rounds _ fun power => absurd power small.ne⟩
  · rcases Nat.lt_or_ge m (2 ^ 53) with fits | full
    · have field : (k * 2 ^ 52 + m) / 2 ^ 52 = k + 1 := by omega
      have fraction : 2 ^ 52 + (k * 2 ^ 52 + m) % 2 ^ 52 = m := by omega
      have exponent : ((k + 1 : ℕ) : ℤ) - 1075 = k - 1074 := by omega
      rw [field, if_neg (by omega), if_neg (by omega), fraction, exponent]
      refine ⟨rfl, h.rounds _ fun power above => ?_⟩
      rw [power]
      exact_mod_cast long (by omega)
    · obtain rfl : m = 2 ^ 53 := le_antisymm hm full
      have field : (k * 2 ^ 52 + 2 ^ 53) / 2 ^ 52 = k + 2 := by omega
      have fraction : (k * 2 ^ 52 + 2 ^ 53) % 2 ^ 52 = 0 := by omega
      have low := h.low
      push_cast at low
      rw [field, fraction, if_neg (by omega : ¬ k + 2 = 0)]
      split_ifs with last
      · obtain rfl : k = 2045 := by omega
        refine ⟨rfl, mul_le_mul_of_nonneg_right ?_ (by positivity)⟩
        norm_num at low ⊢
        linarith
      · have exponent : ((k + 2 : ℕ) : ℤ) - 1075 = k - 1074 + 1 := by omega
        rw [exponent]
        refine ⟨rfl, rounds_carried low short ?_⟩
        omega

theorem ofFloat_nearest_zero (negative : Bool) (d : ℕ) :
    ofFloat (nearest negative 0 d) = .finite negative 0 (-1074) := by
  rw [nearest, nearestBits, if_pos rfl, ofFloat_word negative (by norm_num)]
  norm_num

theorem ofFloat_infinite (negative : Bool) : ofFloat (infinite negative) = .infinity negative := by
  have full : 2047 * twoTo 52 = 2047 * 2 ^ 52 := rfl
  rw [infinite, full, ofFloat_word negative le_rfl, if_pos (by norm_num)]

/-! ### Fractions -/

/-- The exponent of the last place of the double nearest to a fraction. -/
def lastPlace (n d : ℕ) : ℤ :=
  if binaryExponent n d < -1022 then -1074 else binaryExponent n d - 52

/-- A fraction counted in units of a power of two. -/
theorem div_twoTo (n d : ℕ) (e : ℤ) :
    (((n * twoTo (-e).toNat : ℕ) : ℚ) / (d * twoTo e.toNat : ℕ)) * 2 ^ e = n / d := by
  have scale := zpow_mul_pow_toNat (b := (2 : ℚ)) (by norm_num) e
  have unit : (2 : ℚ) ^ e ≠ 0 := by positivity
  have part : (2 : ℚ) ^ (-e).toNat ≠ 0 := by positivity
  rw [Nat.cast_mul, Nat.cast_mul, cast_twoTo, cast_twoTo, ← scale]
  by_cases zero : (d : ℚ) = 0
  · simp [zero]
  · field_simp

theorem nearest_ordinary (negative : Bool) {n d : ℕ} (hn : 0 < n) (hd : 0 < d)
    (small : binaryExponent n d ≤ 1023) :
    Nearest negative (n / d) (ofFloat (nearest negative n d)) := by
  obtain ⟨low, high⟩ := binaryExponent_bounds hn hd
  have above : -1074 ≤ lastPlace n d ∧ lastPlace n d ≤ 971 := by
    unfold lastPlace
    split_ifs <;> omega
  obtain ⟨k, k_eq⟩ := Int.eq_ofNat_of_zero_le (by omega : 0 ≤ lastPlace n d + 1074)
  have word : nearestBits n d = k * twoTo 52 +
      roundDiv (n * twoTo (-lastPlace n d).toNat) (d * twoTo (lastPlace n d).toNat) := by
    have field : (lastPlace n d + 1074).toNat = k := by omega
    rw [nearestBits, if_neg hn.ne', if_neg (by omega), ← field]
    rfl
  have split := div_twoTo n d (lastPlace n d)
  have whole := rounded_roundDiv (n * twoTo (-lastPlace n d).toNat)
    (Nat.mul_pos hd (twoTo_pos (lastPlace n d).toNat))
  rw [nearest, word]
  generalize ((n * twoTo (-lastPlace n d).toNat : ℕ) : ℚ) /
    (d * twoTo (lastPlace n d).toNat : ℕ) = y at split whole
  generalize roundDiv (n * twoTo (-lastPlace n d).toNat) (d * twoTo (lastPlace n d).toNat) = m
    at whole
  have unit : (0 : ℚ) < 2 ^ lastPlace n d := by positivity
  have exponent : lastPlace n d = (k : ℤ) - 1074 := by omega
  -- the unit leaves the bits of a mantissa
  have short : y < 2 ^ 53 := by
    refine lt_of_mul_lt_mul_right (lt_of_lt_of_le (split ▸ high) ?_) unit.le
    rw [← zpow_natCast, ← zpow_add₀ (by norm_num)]
    refine zpow_le_zpow_right₀ (by norm_num) ?_
    unfold lastPlace
    split_ifs <;> push_cast <;> omega
  have long : 0 < k → (2 : ℚ) ^ 52 ≤ y := by
    intro pos
    refine le_of_mul_le_mul_right (le_trans ?_ (split ▸ low)) unit
    rw [← zpow_natCast, ← zpow_add₀ (by norm_num)]
    refine zpow_le_zpow_right₀ (by norm_num) ?_
    unfold lastPlace at exponent ⊢
    split_ifs at exponent ⊢ <;> push_cast <;> omega
  have full : m ≤ 2 ^ 53 := by
    by_contra more
    have : (2 ^ 53 : ℚ) + 1 ≤ m := by exact_mod_cast not_le.1 more
    have := whole.low
    linarith
  rw [← split, exponent]
  exact nearest_word negative whole (by omega) full long short

/-- **The double that is found is the nearest one.** -/
theorem nearest_nearest (negative : Bool) (n : ℕ) {d : ℕ} (hd : 0 < d) :
    Nearest negative (n / d) (ofFloat (nearest negative n d)) := by
  rcases Nat.eq_zero_or_pos n with rfl | hn
  · rw [ofFloat_nearest_zero, Nat.cast_zero, zero_div]
    exact ⟨rfl, rounds_zero _⟩
  · rcases le_or_gt (binaryExponent n d) 1023 with small | great
    · exact nearest_ordinary negative hn hd small
    · have infinity : nearest negative n d = infinite negative := by
        rw [nearest, nearestBits, if_neg hn.ne', if_pos great, infinite]
      rw [infinity, ofFloat_infinite]
      refine ⟨rfl, ?_⟩
      calc beyond ≤ 2 ^ (1024 : ℤ) := beyond_le
        _ ≤ 2 ^ binaryExponent n d := zpow_le_zpow_right₀ (by norm_num) (by omega)
        _ ≤ n / d := (binaryExponent_bounds hn hd).1

/-! ### Decimals -/

section Decimals

variable {digits : ℕ} {exponent : ℤ}

theorem value_lt_of_places :
    (⟨digits, exponent⟩ : Decimal).value < 10 ^ ((Nat.toDigits 10 digits).length + exponent) := by
  have length : digits < 10 ^ (Nat.toDigits 10 digits).length :=
    (Nat.length_toDigits_le_iff (by norm_num) Nat.length_toDigits_pos).1 le_rfl
  rw [zpow_add₀ (by norm_num), zpow_natCast, Decimal.value]
  exact mul_lt_mul_of_pos_right (by exact_mod_cast length) (by positivity)

theorem le_value_of_places (pos : 0 < digits) :
    (10 : ℚ) ^ ((Nat.toDigits 10 digits).length - 1 + exponent) ≤
      (⟨digits, exponent⟩ : Decimal).value := by
  obtain ⟨k, length⟩ : ∃ k, (Nat.toDigits 10 digits).length = k + 1 :=
    Nat.exists_eq_add_one.2 Nat.length_toDigits_pos
  have whole : 10 ^ k ≤ digits := by
    rcases Nat.eq_zero_or_pos k with rfl | long
    · exact pos
    · by_contra less
      have := (Nat.length_toDigits_le_iff (by norm_num) long).2 (not_le.1 less)
      omega
  rw [length, Nat.cast_add, Nat.cast_one, add_sub_cancel_right, zpow_add₀ (by norm_num),
    zpow_natCast, Decimal.value]
  exact mul_le_mul_of_nonneg_right (by exact_mod_cast whole) (by positivity)

/-- A decimal is read as the double nearest to it, also where it is too great or too small for its
digits to be looked at. -/
theorem nearest_ofDecimal (negative : Bool) (digits : ℕ) (exponent : ℤ) :
    Nearest negative (⟨digits, exponent⟩ : Decimal).value
      (ofFloat (ofDecimal negative digits exponent)) := by
  have high : (⟨digits, exponent⟩ : Decimal).value <
      10 ^ ((Nat.toDigits 10 digits).length + exponent) := value_lt_of_places
  unfold ofDecimal
  dsimp only
  split_ifs with small great
  · -- less than half of the least double
    have tiny : (⟨digits, exponent⟩ : Decimal).value < 2 ^ (-1075 : ℤ) := by
      rcases small with rfl | few
      · rw [Decimal.value, Nat.cast_zero, zero_mul]
        positivity
      · have powers : 2 ^ 1075 ≤ 10 ^ 324 := by decide +kernel
        calc (⟨digits, exponent⟩ : Decimal).value
            < 10 ^ ((Nat.toDigits 10 digits).length + exponent) := high
          _ ≤ 10 ^ (-324 : ℤ) := zpow_le_zpow_right₀ (by norm_num) few
          _ ≤ 2 ^ (-1075 : ℤ) := by
            rw [zpow_neg, zpow_neg]
            exact inv_anti₀ (by positivity) (by exact_mod_cast powers)
    have upper_eq : upper 0 (-1074) = 2 ^ (-1075 : ℤ) := by
      rw [upper, show (-1074 : ℤ) = -1075 + 1 by norm_num, zpow_add_one₀ (by norm_num),
        Nat.cast_zero]
      ring
    have low : lower 0 (-1074) < 0 := by
      have := lower_lt_magnitude 0 (-1074)
      rwa [magnitude_zero] at this
    rw [ofFloat_nearest_zero]
    refine ⟨rfl, rounds_of_between (low.trans_le ?_) (upper_eq ▸ tiny)⟩
    unfold Decimal.value
    positivity
  · -- more than the greatest double
    have pos : 0 < digits := Nat.pos_of_ne_zero (not_or.1 small).1
    have powers : 2 ^ 1024 ≤ 10 ^ 309 := by decide +kernel
    rw [ofFloat_infinite]
    refine ⟨rfl, ?_⟩
    calc beyond ≤ 2 ^ (1024 : ℤ) := beyond_le
      _ ≤ 10 ^ (309 : ℤ) := by exact_mod_cast powers
      _ ≤ 10 ^ ((Nat.toDigits 10 digits).length - 1 + exponent) :=
        zpow_le_zpow_right₀ (by norm_num) (by omega)
      _ ≤ (⟨digits, exponent⟩ : Decimal).value := le_value_of_places pos
  · have one : (0 : ℚ) < (tenTo (-exponent).toNat : ℕ) := by exact_mod_cast tenTo_pos _
    have value : ((digits * tenTo exponent.toNat : ℕ) : ℚ) / (tenTo (-exponent).toNat : ℕ) =
        (⟨digits, exponent⟩ : Decimal).value := by
      rw [div_eq_iff one.ne', (⟨digits, exponent⟩ : Decimal).value_mul_tenTo, Nat.cast_mul]
    rw [← value]
    exact nearest_nearest negative _ (tenTo_pos _)

end Decimals

/-! ### Doubles found again -/

section Again

variable {negative : Bool} {m : ℕ} {e : ℤ}

/-- The exponents of doubles end at 971. -/
theorem exponent_le {x : Float} (parts : ofFloat x = .finite negative m e) : e ≤ 971 := by
  simp only [ofFloat_eq] at parts
  have field : x.toBits.toNat / 2 ^ 52 % 2 ^ 11 < 2 ^ 11 := Nat.mod_lt _ (by norm_num)
  split_ifs at parts
  all_goals
    cases parts
    omega

/-- What rounds to a double is short of halfway beyond the greatest one. -/
theorem lt_beyond {x : ℚ} (canonical : (finite negative m e).Canonical) (he : e ≤ 971)
    (h : Rounds m e x) : x < beyond := by
  have greatest : (finite negative (2 ^ 53 - 1) 971).Canonical := ⟨by omega, by omega⟩
  have short : m < 2 ^ 53 := canonical.1
  by_cases less : e < 971 ∨ e = 971 ∧ m < 2 ^ 53 - 1
  · calc x ≤ upper m e := h.between.2
      _ ≤ lower (2 ^ 53 - 1) 971 := (upper_le_lower canonical greatest less).1
      _ < magnitude (2 ^ 53 - 1) 971 := lower_lt_magnitude _ _
      _ < beyond := magnitude_lt_upper _ _
  · -- the mantissa of the greatest double is odd, so its band is open
    obtain ⟨rfl, rfl⟩ : m = 2 ^ 53 - 1 ∧ e = 971 := by omega
    exact h.2

/-- What rounds to a double has no other double for its nearest. -/
theorem eq_of_nearest {b : Binary64} {x : ℚ} (canonical : (finite negative m e).Canonical)
    (he : e ≤ 971) (h : Rounds m e x) (near : b.Nearest negative x) (hb : b.Canonical) :
    b = finite negative m e := by
  cases b with
  | nan => exact near.elim
  | infinity n => exact absurd near.2 (lt_beyond canonical he h).not_ge
  | finite n m' e' =>
    obtain ⟨rfl, near⟩ := near
    obtain ⟨rfl, rfl⟩ := eq_of_rounds hb canonical near h
    rfl

theorem ofDecimal_eq_of_rounds {x : Float} {d : Decimal}
    (parts : ofFloat x = .finite negative m e) (h : Rounds m e d.value) :
    ofDecimal negative d.digits d.exponent = x := by
  have canonical : (finite negative m e).Canonical := parts ▸ canonical_ofFloat x
  have near := nearest_ofDecimal negative d.digits d.exponent
  exact ofFloat_injective
    ((eq_of_nearest canonical (exponent_le parts) h near (canonical_ofFloat _)).trans parts.symm)

end Again

end Binary64

end CallToAction
