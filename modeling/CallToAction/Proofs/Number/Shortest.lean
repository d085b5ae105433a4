import CallToAction.Number.Shortest
import CallToAction.Proofs.Number.Line

/-!
# The shortest decimal lies in the band

A band holds the reals that round to one double: up to halfway to the neighbouring doubles, with the
two midpoints if the mantissa is even.  Bands of different doubles have no real in common.  A grid
of seventeen digits is fine enough to hit every band, so the shortest decimal lies in its band, and
tells which double it stands for.

* `Rounds`, `contains_ofParts_iff`: the band of a double on the line of the rationals;
* `eq_of_rounds`: a real rounds to one double only;
* `value_floor_le`: a double lies between two neighbours on each grid;
* `contains_on_finest`: seventeen digits suffice;
* `rounds_shortest`: the shortest decimal rounds to its double.
-/

namespace CallToAction

open Binary64 (Canonical magnitude)

/-! ### Powers -/

theorem cast_twoTo (k : ℕ) : ((twoTo k : ℕ) : ℚ) = 2 ^ k := by
  rw [show twoTo k = 2 ^ k from rfl, Nat.cast_pow, Nat.cast_ofNat]

theorem cast_tenTo (k : ℕ) : ((tenTo k : ℕ) : ℚ) = 10 ^ k := by
  rw [show tenTo k = 10 ^ k from rfl, Nat.cast_pow, Nat.cast_ofNat]

/-- A power with an integer exponent is a quotient of powers with natural ones. -/
theorem zpow_mul_pow_toNat {b : ℚ} (hb : b ≠ 0) (k : ℤ) :
    b ^ k * b ^ (-k).toNat = b ^ k.toNat := by
  rw [← zpow_natCast, ← zpow_natCast, ← zpow_add₀ hb]
  congr 1
  omega

/-- A greater power of two is at least the double. -/
theorem zpow_mul_two_le {e e' : ℤ} (h : e < e') : (2 : ℚ) ^ e * 2 ≤ 2 ^ e' := by
  rw [← zpow_add_one₀ (by norm_num)]
  exact zpow_le_zpow_right₀ (by norm_num) h

/-! ### Decimals -/

namespace Decimal

/-- The value of a decimal. -/
def value (d : Decimal) : ℚ := d.digits * 10 ^ d.exponent

/-- Trailing zero digits do not count. -/
theorem value_trim (d : Decimal) : d.trim.value = d.value := by
  fun_induction trim d with
  | case1 d h ih =>
    have whole : (d.digits : ℚ) = (d.digits / 10 : ℕ) * 10 := by
      exact_mod_cast (Nat.div_mul_cancel (Nat.dvd_of_mod_eq_zero h.2)).symm
    rw [ih, value, value, zpow_add_one₀ (by norm_num), whole]
    ring
  | case2 d h => rfl

/-- Without its negative powers of ten a decimal is a whole number. -/
theorem value_mul_tenTo (d : Decimal) :
    d.value * tenTo (-d.exponent).toNat = d.digits * tenTo d.exponent.toNat := by
  rw [value, cast_tenTo, cast_tenTo, mul_assoc, zpow_mul_pow_toNat (by norm_num)]

end Decimal

namespace Band

/-! ### Bands on the line -/

/-- How far the band of a double reaches below it, in units of its last place: below a power of two
the neighbour is half as far. -/
def reach (m : ℕ) (e : ℤ) : ℚ := if m = 2 ^ 52 ∧ -1074 < e then 1 / 4 else 1 / 2

/-- The lower end of a band. -/
def lower (m : ℕ) (e : ℤ) : ℚ := (m - reach m e) * 2 ^ e

/-- The upper end of a band. -/
def upper (m : ℕ) (e : ℤ) : ℚ := (m + 1 / 2) * 2 ^ e

/-- A real rounds to a double. -/
def Rounds (m : ℕ) (e : ℤ) (x : ℚ) : Prop :=
  if m % 2 = 0 then lower m e ≤ x ∧ x ≤ upper m e else lower m e < x ∧ x < upper m e

section Ends

variable {m : ℕ} {e : ℤ} {x : ℚ}

theorem reach_le (m : ℕ) (e : ℤ) : reach m e ≤ 1 / 2 := by
  unfold reach
  split_ifs <;> norm_num

theorem reach_pos (m : ℕ) (e : ℤ) : 0 < reach m e := by
  unfold reach
  split_ifs <;> norm_num

theorem lower_eq (m : ℕ) (e : ℤ) : lower m e = magnitude m e - reach m e * 2 ^ e := sub_mul _ _ _

theorem upper_eq (m : ℕ) (e : ℤ) : upper m e = magnitude m e + 1 / 2 * 2 ^ e := add_mul _ _ _

theorem lower_lt_magnitude (m : ℕ) (e : ℤ) : lower m e < magnitude m e := by
  have reach := reach_pos m e
  rw [lower_eq]
  exact sub_lt_self _ (by positivity)

theorem magnitude_lt_upper (m : ℕ) (e : ℤ) : magnitude m e < upper m e := by
  rw [upper_eq]
  exact lt_add_of_pos_right _ (by positivity)

theorem Rounds.between (h : Rounds m e x) : lower m e ≤ x ∧ x ≤ upper m e := by
  unfold Rounds at h
  split_ifs at h
  · exact h
  · exact ⟨h.1.le, h.2.le⟩

theorem rounds_of_between (low : lower m e < x) (high : x < upper m e) : Rounds m e x := by
  unfold Rounds
  split_ifs
  · exact ⟨low.le, high.le⟩
  · exact ⟨low, high⟩

/-- Zero rounds to zero. -/
theorem rounds_zero (e : ℤ) : Rounds 0 e 0 := by
  have reach := reach_pos 0 e
  have unit : (0 : ℚ) < 2 ^ e := by positivity
  refine rounds_of_between ?_ ?_
  · rw [lower, Nat.cast_zero, zero_sub, neg_mul]
    exact neg_neg_of_pos (mul_pos reach unit)
  · rw [upper, Nat.cast_zero, zero_add]
    positivity

/-- The midpoints belong to a band with an even mantissa. -/
theorem Rounds.even_of_eq (h : Rounds m e x) (tie : x = lower m e ∨ x = upper m e) :
    m % 2 = 0 := by
  unfold Rounds at h
  split_ifs at h with even
  · exact even
  · rcases tie with rfl | rfl
    · exact absurd h.1 (lt_irrefl _)
    · exact absurd h.2 (lt_irrefl _)

/-! ### Bands of different doubles -/

section Less

variable {n n' : Bool} {m' : ℕ} {e' : ℤ} (h : (Binary64.finite n m e).Canonical)
  (h' : (Binary64.finite n' m' e').Canonical) (less : e < e' ∨ e = e' ∧ m < m')

include h h' less

/-- A band ends before the middle between its double and a greater one; where it ends there, one of
the mantissas is odd. -/
theorem two_mul_upper_le :
    2 * upper m e ≤ magnitude m e + magnitude m' e' ∧
      (2 * upper m e = magnitude m e + magnitude m' e' → m % 2 = 1 ∨ m' % 2 = 1) := by
  obtain ⟨short, low⟩ := h
  obtain ⟨-, long⟩ := h'
  have unit : (0 : ℚ) < 2 ^ e := by positivity
  have next : 2 * upper m e = magnitude m e + (m + 1) * 2 ^ e := by
    rw [upper, magnitude]
    ring
  rw [next, add_le_add_iff_left, add_right_inj, magnitude]
  rcases less with less | ⟨rfl, less⟩
  · have long' : (2 ^ 52 : ℚ) ≤ m' := by exact_mod_cast (by omega : 2 ^ 52 ≤ m')
    have above : (2 ^ 53 : ℚ) * 2 ^ e ≤ m' * 2 ^ e' := by
      calc (2 ^ 53 : ℚ) * 2 ^ e = 2 ^ 52 * (2 ^ e * 2) := by ring
        _ ≤ m' * 2 ^ e' :=
          mul_le_mul long' (zpow_mul_two_le less) (by positivity) (by positivity)
    have short' : (m : ℚ) + 1 ≤ 2 ^ 53 := by exact_mod_cast short
    refine ⟨(mul_le_mul_of_nonneg_right short' unit.le).trans above, fun touch => .inl ?_⟩
    -- they touch only behind the greatest mantissa, which is odd
    by_contra even
    have : (m : ℚ) + 2 ≤ 2 ^ 53 := by exact_mod_cast (by omega : m + 2 ≤ 2 ^ 53)
    have : (m + 2 : ℚ) * 2 ^ e ≤ 2 ^ 53 * 2 ^ e := mul_le_mul_of_nonneg_right this unit.le
    linarith
  · have next : (m : ℚ) + 1 ≤ m' := by exact_mod_cast less
    refine ⟨mul_le_mul_of_nonneg_right next unit.le, fun touch => ?_⟩
    have : (m + 1 : ℚ) = m' := mul_right_cancel₀ unit.ne' touch
    have : m + 1 = m' := by exact_mod_cast this
    omega

/-- A band starts behind the middle between its double and a smaller one. -/
theorem le_two_mul_lower : magnitude m e + magnitude m' e' ≤ 2 * lower m' e' := by
  obtain ⟨short, low⟩ := h
  obtain ⟨-, long⟩ := h'
  have unit : (0 : ℚ) < 2 ^ e := by positivity
  have previous : 2 * lower m' e' = (m' - 2 * reach m' e') * 2 ^ e' + magnitude m' e' := by
    rw [lower, magnitude]
    ring
  rw [previous, add_le_add_iff_right, magnitude]
  rcases less with less | ⟨rfl, less⟩
  · have short' : (m : ℚ) + 1 ≤ 2 ^ 53 := by exact_mod_cast short
    have long' : (2 ^ 52 : ℚ) - 1 / 2 ≤ m' - 2 * reach m' e' := by
      unfold reach
      split_ifs with power
      · rw [power.1]
        norm_num
      · have : (2 ^ 52 + 1 : ℚ) ≤ m' := by exact_mod_cast (by omega : 2 ^ 52 + 1 ≤ m')
        linarith
    calc (m : ℚ) * 2 ^ e ≤ (2 ^ 53 - 1) * 2 ^ e :=
          mul_le_mul_of_nonneg_right (by linarith) unit.le
      _ = (2 ^ 52 - 1 / 2) * (2 ^ e * 2) := by ring
      _ ≤ (m' - 2 * reach m' e') * 2 ^ e' :=
        mul_le_mul long' (zpow_mul_two_le less) (by positivity) (le_trans (by norm_num) long')
  · have next : (m : ℚ) + 1 ≤ m' := by exact_mod_cast less
    have close := reach_le m' e
    exact mul_le_mul_of_nonneg_right (by linarith) unit.le

theorem magnitude_lt_of_less : magnitude m e < magnitude m' e' := by
  have middle := (two_mul_upper_le h h' less).1
  have short := magnitude_lt_upper m e
  linarith

/-- A band ends before the band of a greater double starts; where they touch, one of the mantissas
is odd. -/
theorem upper_le_lower :
    upper m e ≤ lower m' e' ∧ (upper m e = lower m' e' → m % 2 = 1 ∨ m' % 2 = 1) := by
  obtain ⟨below, tie⟩ := two_mul_upper_le h h' less
  have above := le_two_mul_lower h h' less
  exact ⟨by linarith, fun touch => tie (by linarith)⟩

/-- A real does not round to two doubles of which one is greater. -/
theorem not_rounds_of_less (here : Rounds m e x) : ¬ Rounds m' e' x := by
  intro there
  obtain ⟨apart, touch⟩ := upper_le_lower h h' less
  have high := here.between.2
  have low := there.between.1
  have ends : upper m e = lower m' e' := le_antisymm apart (low.trans high)
  have even := here.even_of_eq (.inr (le_antisymm high (ends ▸ low)))
  have even' := there.even_of_eq (.inl (le_antisymm (ends ▸ high) low))
  have := touch ends
  omega

end Less

/-- Of two doubles one is greater, unless they are the same. -/
theorem less_trichotomy (m m' : ℕ) (e e' : ℤ) :
    (e < e' ∨ e = e' ∧ m < m') ∨ (m = m' ∧ e = e') ∨ (e' < e ∨ e' = e ∧ m' < m) := by
  omega

/-- A real rounds to one double only. -/
theorem eq_of_rounds {n n' : Bool} {m' : ℕ} {e' : ℤ} (h : (Binary64.finite n m e).Canonical)
    (h' : (Binary64.finite n' m' e').Canonical) (here : Rounds m e x) (there : Rounds m' e' x) :
    m = m' ∧ e = e' := by
  rcases less_trichotomy m m' e e' with less | same | greater
  · exact absurd there (not_rounds_of_less h h' less here)
  · exact same
  · exact absurd here (not_rounds_of_less h' h greater there)

end Ends

/-! ### What a band contains -/

section Contains

variable {m : ℕ} (e : ℤ)

/-- The ends and the middle of a band are counted in quarters of its last place. -/
theorem cast_scale (e : ℤ) :
    ((twoTo (e - 2).toNat : ℕ) : ℚ) = 2 ^ e / 4 * (twoTo (2 - e).toNat : ℕ) := by
  have quarter : (2 : ℚ) ^ (e - 2) = 2 ^ e / 4 := by
    rw [zpow_sub₀ (by norm_num)]
    norm_num
  rw [cast_twoTo, cast_twoTo, ← quarter, ← neg_sub e 2, zpow_mul_pow_toNat (by norm_num)]

theorem cast_mid (m : ℕ) :
    ((ofParts m e).mid : ℚ) = magnitude m e * ((ofParts m e).unit : ℕ) := by
  simp only [ofParts, Nat.cast_mul, cast_scale, magnitude]
  push_cast
  ring

theorem cast_high (m : ℕ) :
    ((ofParts m e).high : ℚ) = upper m e * ((ofParts m e).unit : ℕ) := by
  simp only [ofParts, Nat.cast_mul, cast_scale, upper]
  push_cast
  ring

theorem cast_low (hm : 0 < m) :
    ((ofParts m e).low : ℚ) = lower m e * ((ofParts m e).unit : ℕ) := by
  have power : m = twoTo 52 ↔ m = 2 ^ 52 := Iff.rfl
  simp only [ofParts, Nat.cast_mul, cast_scale, lower, reach, power]
  split_ifs
  · rw [Nat.cast_sub (by omega)]
    push_cast
    ring
  · rw [Nat.cast_sub (by omega)]
    push_cast
    ring

theorem unit_pos (m : ℕ) : (0 : ℚ) < (ofParts m e).unit := by
  exact_mod_cast twoTo_pos _

/-- A band contains the decimals that round to its double. -/
theorem contains_ofParts_iff (hm : 0 < m) (d : Decimal) :
    (ofParts m e).contains d = true ↔ Rounds m e d.value := by
  have one : (0 : ℚ) < (tenTo (-d.exponent).toNat : ℕ) := by exact_mod_cast tenTo_pos _
  have unit := unit_pos e m
  have decimal : ((d.digits * tenTo d.exponent.toNat * (ofParts m e).unit : ℕ) : ℚ) =
      d.value * (ofParts m e).unit * (tenTo (-d.exponent).toNat : ℕ) := by
    push_cast
    rw [← d.value_mul_tenTo]
    ring
  have low : (((ofParts m e).low * tenTo (-d.exponent).toNat : ℕ) : ℚ) =
      lower m e * (ofParts m e).unit * (tenTo (-d.exponent).toNat : ℕ) := by
    rw [Nat.cast_mul, cast_low e hm]
  have high : (((ofParts m e).high * tenTo (-d.exponent).toNat : ℕ) : ℚ) =
      upper m e * (ofParts m e).unit * (tenTo (-d.exponent).toNat : ℕ) := by
    rw [Nat.cast_mul, cast_high]
  have closed : (ofParts m e).closed = (m % 2 == 0) := rfl
  unfold contains Rounds
  rw [closed]
  by_cases even : m % 2 = 0
  · rw [if_pos even]
    simp only [even, beq_self_eq_true, if_true, decide_eq_true_eq]
    rw [← Nat.cast_le (α := ℚ), ← Nat.cast_le (α := ℚ), decimal, low, high,
      mul_le_mul_iff_left₀ one, mul_le_mul_iff_left₀ unit, mul_le_mul_iff_left₀ one,
      mul_le_mul_iff_left₀ unit]
  · rw [if_neg even]
    simp only [even, beq_iff_eq, if_false, decide_eq_true_eq]
    rw [← Nat.cast_lt (α := ℚ), ← Nat.cast_lt (α := ℚ), decimal, low, high,
      mul_lt_mul_iff_left₀ one, mul_lt_mul_iff_left₀ unit, mul_lt_mul_iff_left₀ one,
      mul_lt_mul_iff_left₀ unit]

end Contains

/-! ### Seventeen digits -/

section Grid

variable {m : ℕ} {e : ℤ}

/-- The leading digit of a double does not exceed it. -/
theorem tenTo_leading_le (hm : 0 < m) : (10 : ℚ) ^ (ofParts m e).leading ≤ magnitude m e := by
  have unit := unit_pos e m
  have unit_ne : 0 < (ofParts m e).unit := by exact_mod_cast unit
  have mid : magnitude m e = ((ofParts m e).mid : ℚ) / (ofParts m e).unit := by
    rw [cast_mid, mul_div_cancel_right₀ _ unit.ne']
  have mid_pos : 0 < (ofParts m e).mid := by
    have : (0 : ℚ) < (ofParts m e).mid := by
      rw [cast_mid]
      exact mul_pos (Binary64.magnitude_pos e hm) unit
    exact_mod_cast this
  rw [mid, leading]
  generalize (ofParts m e).mid = v at mid_pos ⊢
  generalize (ofParts m e).unit = u at unit unit_ne ⊢
  split_ifs with whole
  · -- the digits of the whole part are counted
    have some : 0 < v / u := Nat.div_pos whole unit_ne
    obtain ⟨k, length⟩ : ∃ k, (Nat.toDigits 10 (v / u)).length = k + 1 :=
      Nat.exists_eq_add_one.2 Nat.length_toDigits_pos
    have digits : 10 ^ k ≤ v / u := by
      rcases Nat.eq_zero_or_pos k with rfl | pos
      · exact some
      · by_contra less
        have := (Nat.length_toDigits_le_iff (by norm_num) pos).2 (not_le.1 less)
        omega
    have : 10 ^ k * u ≤ v := (Nat.le_div_iff_mul_le unit_ne).1 digits
    rw [length, Nat.cast_add, Nat.cast_one, add_sub_cancel_right, zpow_natCast, le_div_iff₀ unit]
    exact_mod_cast this
  · -- the digits of the inverse are counted
    have digits := (Nat.length_toDigits_le_iff (b := 10) (by norm_num)
      Nat.length_toDigits_pos).1 (le_refl (Nat.toDigits 10 ((u - 1) / v)).length)
    generalize (Nat.toDigits 10 ((u - 1) / v)).length = k at digits ⊢
    rw [Nat.div_lt_iff_lt_mul mid_pos] at digits
    have : u ≤ 10 ^ k * v := by omega
    rw [zpow_neg, zpow_natCast, le_div_iff₀ unit, inv_mul_le_iff₀ (by positivity)]
    exact_mod_cast this

/-- A double lies between two neighbours on each grid. -/
theorem value_floor_le (m : ℕ) (e k : ℤ) :
    ((ofParts m e).floor k).value ≤ magnitude m e ∧
      magnitude m e < (⟨((ofParts m e).floor k).digits + 1, k⟩ : Decimal).value := by
  have unit := unit_pos e m
  have one : (0 : ℚ) < (tenTo (-k).toNat : ℕ) := by exact_mod_cast tenTo_pos _
  have grid : ((tenTo k.toNat : ℕ) : ℚ) = 10 ^ k * (tenTo (-k).toNat : ℕ) := by
    rw [cast_tenTo, cast_tenTo, zpow_mul_pow_toNat (by norm_num)]
  have divisor : 0 < (ofParts m e).unit * tenTo k.toNat :=
    Nat.mul_pos (by exact_mod_cast unit) (tenTo_pos _)
  -- what the digits times the divisor are, over the rationals
  have scaled (q : ℕ) : (((ofParts m e).unit * tenTo k.toNat * q : ℕ) : ℚ) =
      (⟨q, k⟩ : Decimal).value * ((ofParts m e).unit * (tenTo (-k).toNat : ℕ)) := by
    rw [Nat.cast_mul, Nat.cast_mul, grid, Decimal.value]
    ring
  have double : (((ofParts m e).mid * tenTo (-k).toNat : ℕ) : ℚ) =
      magnitude m e * ((ofParts m e).unit * (tenTo (-k).toNat : ℕ)) := by
    rw [Nat.cast_mul, cast_mid, mul_assoc]
  have low := Nat.mul_div_le ((ofParts m e).mid * tenTo (-k).toNat)
    ((ofParts m e).unit * tenTo k.toNat)
  have high := Nat.lt_mul_div_succ ((ofParts m e).mid * tenTo (-k).toNat) divisor
  constructor
  · rwa [← Nat.cast_le (α := ℚ), scaled, double, mul_le_mul_iff_left₀ (mul_pos unit one)] at low
  · rwa [← Nat.cast_lt (α := ℚ), scaled, double, mul_lt_mul_iff_left₀ (mul_pos unit one)] at high

/-- The units of a grid whose neighbours both lie outside the band are longer than the band. -/
theorem width_le_of_missed {k : ℤ} (low : ¬ Rounds m e ((ofParts m e).floor k).value)
    (high : ¬ Rounds m e (⟨((ofParts m e).floor k).digits + 1, k⟩ : Decimal).value) :
    (1 / 2 + reach m e) * 2 ^ e ≤ 10 ^ k := by
  obtain ⟨below, above⟩ := value_floor_le m e k
  have under : ((ofParts m e).floor k).value ≤ lower m e := by
    by_contra inside
    exact low (rounds_of_between (not_le.1 inside) (below.trans_lt (magnitude_lt_upper m e)))
  have beyond : upper m e ≤ (⟨((ofParts m e).floor k).digits + 1, k⟩ : Decimal).value := by
    by_contra inside
    exact high (rounds_of_between ((lower_lt_magnitude m e).trans above) (not_le.1 inside))
  have step : (⟨((ofParts m e).floor k).digits + 1, k⟩ : Decimal).value =
      ((ofParts m e).floor k).value + 10 ^ k := by
    have exponent : ((ofParts m e).floor k).exponent = k := rfl
    rw [Decimal.value, Decimal.value, exponent, Nat.cast_add_one]
    ring
  calc (1 / 2 + reach m e) * 2 ^ e = upper m e - lower m e := by rw [upper, lower]; ring
    _ ≤ 10 ^ k := by linarith

/-- With seventeen digits one of the two neighbours lies in the band. -/
theorem contains_on_finest (hm : 0 < m) (short : m < 2 ^ 53) {k : ℤ}
    (finest : k = (ofParts m e).leading - 16) :
    (ofParts m e).contains ((ofParts m e).floor k) = true ∨
      (ofParts m e).contains ⟨((ofParts m e).floor k).digits + 1, k⟩ = true := by
  rw [contains_ofParts_iff e hm, contains_ofParts_iff e hm]
  by_contra missed
  obtain ⟨low, high⟩ := not_or.1 missed
  have unit : (0 : ℚ) < 2 ^ e := by positivity
  have width := width_le_of_missed low high
  -- so the leading digit stands for more than the double
  have leading : 10 ^ 16 * (10 : ℚ) ^ k ≤ m * 2 ^ e := by
    have := tenTo_leading_le (e := e) hm
    rwa [show (ofParts m e).leading = 16 + k by omega, zpow_add₀ (by norm_num)] at this
  have long : 10 ^ 16 * (1 / 2 + reach m e) ≤ m := by
    refine le_of_mul_le_mul_right ?_ unit
    linarith
  unfold reach at long
  split_ifs at long with power
  · rw [power.1] at long
    norm_num at long
  · have : (m : ℚ) < 2 ^ 53 := by exact_mod_cast short
    norm_num at long this
    linarith

end Grid

/-! ### The shortest decimal -/

section Shortest

variable {b : Band} {tie : Tie}

/-- What is taken on a grid lies in the band. -/
theorem contains_of_onGrid? {k : ℤ} {d : Decimal} (taken : b.onGrid? tie k = some d) :
    b.contains d = true := by
  unfold onGrid? at taken
  dsimp only at taken
  split_ifs at taken with below above
  · cases taken
    exact (Bool.and_eq_true_iff.1 below).1
  · cases taken
    exact above

/-- On a grid that hits the band one of the two neighbours is taken. -/
theorem isSome_onGrid? {k : ℤ}
    (hit : b.contains (b.floor k) = true ∨ b.contains ⟨(b.floor k).digits + 1, k⟩ = true) :
    (b.onGrid? tie k).isSome = true := by
  unfold onGrid?
  dsimp only
  split_ifs with below above
  · rfl
  · rfl
  · rcases hit with hit | hit
    · simp [hit, above] at below
    · exact absurd hit above

/-- The shortest decimal is one of the band, without its trailing zeros. -/
theorem exists_contains_shortest
    (hit : b.contains (b.floor (b.leading - 16)) = true ∨
      b.contains ⟨(b.floor (b.leading - 16)).digits + 1, b.leading - 16⟩ = true) :
    ∃ d, b.contains d = true ∧ b.shortest tie = d.trim := by
  have found : ((List.range 17).findSome? fun i => b.onGrid? tie (b.leading - (i : ℕ))).isSome :=
    List.findSome?_isSome_iff.2 ⟨16, by decide, isSome_onGrid? hit⟩
  obtain ⟨d, hd⟩ := Option.isSome_iff_exists.1 found
  obtain ⟨i, -, taken⟩ := List.exists_of_findSome?_eq_some hd
  exact ⟨d, contains_of_onGrid? taken, by rw [shortest, hd, Option.getD_some]⟩

/-- The shortest decimal rounds to its double. -/
theorem rounds_shortest {m : ℕ} (e : ℤ) (tie : Tie) (hm : 0 < m) (short : m < 2 ^ 53) :
    Rounds m e ((ofParts m e).shortest tie).value := by
  obtain ⟨d, inside, eq⟩ : ∃ d, (ofParts m e).contains d = true ∧
      (ofParts m e).shortest tie = d.trim :=
    exists_contains_shortest (contains_on_finest hm short rfl)
  rw [eq, Decimal.value_trim]
  exact (contains_ofParts_iff e hm d).1 inside

end Shortest

end Band

end CallToAction
