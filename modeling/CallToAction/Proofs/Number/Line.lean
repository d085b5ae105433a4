import CallToAction.Number.Binary64
import Mathlib

/-!
# Doubles on the number line

A double that is a number has a place on the line of the rationals with both infinities;
`Binary64.place?` reads it off the parts of the double.  The comparisons of doubles are those of
their places, and what is not a number stands in no relation to anything.

* `unpack_toModel`: taking a double apart agrees with the floating-point model of the logic;
* `ofFloat_injective`: a double is told by its parts;
* `lt_iff_place`, `le_iff_place`, `beq_iff_place`: comparing doubles is comparing places;
* `lt_iff_value`, `le_iff_value`, `beq_iff_value`: finite doubles compare as rationals do;
* `lt_trans`, `le_trans`, `not_lt_iff`, `not_le_iff`: what doubles keep of a linear order;
* `value_mem_unit`: doubles from zero to one.
-/

namespace CallToAction

open Float.Model Float.Model.UnpackedFloat

namespace Binary64

/-! ### The parts of a double in the model of the logic -/

/-- The sign of a negative or of another number. -/
def signOf (negative : Bool) : Sign := if negative then .negative else .positive

/-- The parts of a double as the floating-point model holds them. -/
def unpacked : Binary64 → UnpackedFloat
  | nan => .notANumber
  | infinity negative => .infinity (signOf negative)
  | finite negative 0 _ => .zero (signOf negative)
  | finite negative (m + 1) e => .finite (signOf negative) (m + 1) e (Nat.succ_pos m)

theorem unpacked_finite_pos (negative : Bool) {m : ℕ} (e : ℤ) (hm : 0 < m) :
    (finite negative m e).unpacked = .finite (signOf negative) m e hm := by
  obtain ⟨k, rfl⟩ := Nat.exists_eq_succ_of_ne_zero hm.ne'
  rfl

theorem sign_ofBitVec (b : BitVec 64) :
    Sign.ofBitVec (@unpackSign .binary64 b) =
      signOf (b.toNat / 2 ^ 63 % 2 == 1) := by
  have bit : (@unpackSign .binary64 b).toNat = b.toNat / 2 ^ 63 % 2 := by
    simp [unpackSign, Nat.shiftRight_eq_div_pow]
  rcases Nat.mod_two_eq_zero_or_one (b.toNat / 2 ^ 63) with h | h
  · have : @unpackSign .binary64 b = 0#1 := BitVec.eq_of_toNat_eq (by rw [bit, h]; rfl)
    rw [this, h]
    rfl
  · have : @unpackSign .binary64 b = 1#1 := BitVec.eq_of_toNat_eq (by rw [bit, h]; rfl)
    rw [this, h]
    rfl

theorem toNat_unpackExponent (b : BitVec 64) :
    (@unpackExponent .binary64 b).toNat = b.toNat / 2 ^ 52 % 2 ^ 11 := by
  simp [unpackExponent, Nat.shiftRight_eq_div_pow]

theorem toNat_unpackMantissa (b : BitVec 64) :
    (@unpackMantissa .binary64 b).toNat = b.toNat % 2 ^ 52 := by
  simp [unpackMantissa]

theorem exponent_full (b : BitVec 64) :
    @unpackExponent .binary64 b = -1#_ ↔ b.toNat / 2 ^ 52 % 2 ^ 11 = 2047 := by
  rw [← BitVec.toNat_inj, toNat_unpackExponent]
  rfl

theorem exponent_zero (b : BitVec 64) :
    @unpackExponent .binary64 b = 0#_ ↔ b.toNat / 2 ^ 52 % 2 ^ 11 = 0 := by
  rw [← BitVec.toNat_inj, toNat_unpackExponent]
  rfl

theorem mantissa_zero (b : BitVec 64) :
    @unpackMantissa .binary64 b = 0#_ ↔ b.toNat % 2 ^ 52 = 0 := by
  rw [← BitVec.toNat_inj, toNat_unpackMantissa]
  rfl

/-- The mantissa of a normal double, with the bit that is not stored. -/
theorem toNat_normal (b : BitVec 64) :
    (1#1 ++ @unpackMantissa .binary64 b).toNat = 2 ^ 52 + b.toNat % 2 ^ 52 := by
  rw [BitVec.toNat_append, ← Nat.shiftLeft_add_eq_or_of_lt (BitVec.isLt _), toNat_unpackMantissa]
  rfl

/-- The parts of a double by the fields of its word. -/
theorem ofFloat_eq (x : Float) :
    ofFloat x =
      let bits := x.toBits.toNat
      let negative := bits / 2 ^ 63 % 2 == 1
      if bits / 2 ^ 52 % 2 ^ 11 = 2047 then
        if bits % 2 ^ 52 = 0 then .infinity negative else .nan
      else if bits / 2 ^ 52 % 2 ^ 11 = 0 then .finite negative (bits % 2 ^ 52) (-1074)
      else
        .finite negative (2 ^ 52 + bits % 2 ^ 52) (((bits / 2 ^ 52 % 2 ^ 11 : ℕ) : ℤ) - 1075) :=
  rfl

/-- Taking a double apart by its fields is what the floating-point model does. -/
theorem unpack_toModel (x : Float) : x.toModel.unpack = (ofFloat x).unpacked := by
  set b : BitVec 64 := x.toModel.toBits.toBitVec with hb
  have bits : x.toBits.toNat = b.toNat := rfl
  rw [Float.Model.unpack, UnpackedFloat.unpack, ofFloat_eq]
  simp only [← hb, bits, sign_ofBitVec, toNat_unpackExponent, toNat_unpackMantissa]
  by_cases full : b.toNat / 2 ^ 52 % 2 ^ 11 = 2047
  · rw [if_pos full, if_pos ((exponent_full b).2 full)]
    by_cases fraction : b.toNat % 2 ^ 52 = 0
    · rw [if_pos fraction, if_pos ((mantissa_zero b).2 fraction)]; rfl
    · rw [if_neg fraction, if_neg (mt (mantissa_zero b).1 fraction)]; rfl
  · rw [if_neg full, if_neg (mt (exponent_full b).1 full)]
    by_cases subnormal : b.toNat / 2 ^ 52 % 2 ^ 11 = 0
    · -- the model keeps the zeros apart from the other numbers without the leading bit
      rw [if_pos subnormal, if_pos ((exponent_zero b).2 subnormal)]
      by_cases fraction : b.toNat % 2 ^ 52 = 0
      · rw [dif_pos ((mantissa_zero b).2 fraction), fraction]; rfl
      · rw [dif_neg (mt (mantissa_zero b).1 fraction),
          unpacked_finite_pos _ _ (Nat.pos_of_ne_zero fraction)]
        congr 1
        rw [subnormal]
        rfl
    · rw [if_neg subnormal, if_neg (mt (exponent_zero b).1 subnormal),
        unpacked_finite_pos _ _ (by omega)]
      congr 1
      exact toNat_normal b

/-- The parts of a double are all there is to it; what is not a number is one double here. -/
theorem ofFloat_injective {x y : Float} (same : ofFloat x = ofFloat y) : x = y := by
  have unpacked : x.toModel.unpack = y.toModel.unpack := by
    rw [unpack_toModel, unpack_toModel, same]
  have bits := (unpack_inj_of_valid x.toModel.valid y.toModel.valid).1 unpacked
  exact Float.toBits_inj.1 (UInt64.toBitVec_inj.1 bits)

theorem isFinite_iff (v : Float) :
    v.isFinite = true ↔ ∃ negative m e, ofFloat v = .finite negative m e := by
  have parts : v.isFinite = (ofFloat v).unpacked.isFinite := by
    rw [← unpack_toModel]
    rfl
  rw [parts]
  cases ofFloat v with
  | nan => simp [unpacked, UnpackedFloat.isFinite]
  | infinity negative => simp [unpacked, UnpackedFloat.isFinite]
  | finite negative m e => cases m <;> simp [unpacked, UnpackedFloat.isFinite]

/-! ### The place of a double -/

/-- The parts that a double can have: below the least normal exponent every mantissa is short,
from there on it has all its 53 bits. -/
def Canonical : Binary64 → Prop
  | finite _ m e => m < 2 ^ 53 ∧ (e = -1074 ∨ -1074 < e ∧ 2 ^ 52 ≤ m)
  | _ => True

theorem canonical_ofFloat (x : Float) : (ofFloat x).Canonical := by
  have fraction : x.toBits.toNat % 2 ^ 52 < 2 ^ 52 := Nat.mod_lt _ (by norm_num)
  simp only [ofFloat_eq]
  split_ifs
  · trivial
  · trivial
  · exact ⟨by omega, Or.inl rfl⟩
  · exact ⟨by omega, by omega⟩

/-- The size of a finite double. -/
def magnitude (m : ℕ) (e : ℤ) : ℚ := m * 2 ^ e

/-- The value of a finite double; what is not finite has the value zero here. -/
def value : Binary64 → ℚ
  | finite negative m e => if negative then -magnitude m e else magnitude m e
  | _ => 0

/-- The place of a number on the line of the rationals with both infinities. -/
def place? : Binary64 → Option (WithBot (WithTop ℚ))
  | nan => none
  | infinity negative => some (if negative then ⊥ else ((⊤ : WithTop ℚ) : WithBot (WithTop ℚ)))
  | finite negative m e => some (((finite negative m e).value : WithTop ℚ) : WithBot (WithTop ℚ))

theorem magnitude_pos {m : ℕ} (e : ℤ) (hm : 0 < m) : 0 < magnitude m e := by
  have : (0 : ℚ) < m := by exact_mod_cast hm
  unfold magnitude
  positivity

theorem magnitude_zero (e : ℤ) : magnitude 0 e = 0 := by simp [magnitude]

/-- A smaller exponent makes a smaller size, as the greater one comes with a long mantissa. -/
theorem magnitude_lt_of_exponent_lt {m₁ m₂ : ℕ} {e₁ e₂ : ℤ} (short : m₁ < 2 ^ 53)
    (long : 2 ^ 52 ≤ m₂) (h : e₁ < e₂) : magnitude m₁ e₁ < magnitude m₂ e₂ := by
  have hm₁ : (m₁ : ℚ) < 2 ^ 53 := by exact_mod_cast short
  have hm₂ : (2 : ℚ) ^ 52 ≤ m₂ := by exact_mod_cast long
  have step : (2 : ℚ) ^ (e₁ + 1) ≤ 2 ^ e₂ := zpow_le_zpow_right₀ (by norm_num) h
  calc magnitude m₁ e₁ < 2 ^ 53 * 2 ^ e₁ := mul_lt_mul_of_pos_right hm₁ (by positivity)
    _ = 2 ^ 52 * 2 ^ (e₁ + 1) := by rw [zpow_add_one₀ (by norm_num)]; ring
    _ ≤ m₂ * 2 ^ e₂ := mul_le_mul hm₂ step (by positivity) (by positivity)

theorem magnitude_lt_iff_of_exponent_eq {m₁ m₂ : ℕ} (e : ℤ) :
    magnitude m₁ e < magnitude m₂ e ↔ m₁ < m₂ := by
  unfold magnitude
  rw [mul_lt_mul_iff_left₀ (by positivity), Nat.cast_lt]

/-- Canonical parts compare as the sizes do, first by their exponents and then by their
mantissas. -/
theorem compares_magnitude {n₁ n₂ : Bool} {m₁ m₂ : ℕ} {e₁ e₂ : ℤ}
    (h₁ : (finite n₁ m₁ e₁).Canonical) (h₂ : (finite n₂ m₂ e₂).Canonical) :
    ((compare e₁ e₂).then (compare m₁ m₂)).Compares (magnitude m₁ e₁) (magnitude m₂ e₂) := by
  obtain ⟨short₁, low₁⟩ := h₁
  obtain ⟨short₂, low₂⟩ := h₂
  rcases lt_trichotomy e₁ e₂ with h | rfl | h
  · rw [compare_lt_iff_lt.2 h]
    exact magnitude_lt_of_exponent_lt short₁ (by omega) h
  · rw [compare_eq_iff_eq.2 rfl]
    rcases lt_trichotomy m₁ m₂ with h | rfl | h
    · rw [compare_lt_iff_lt.2 h]
      exact (magnitude_lt_iff_of_exponent_eq e₁).2 h
    · rw [compare_eq_iff_eq.2 rfl]
      rfl
    · rw [compare_gt_iff_gt.2 h]
      exact (magnitude_lt_iff_of_exponent_eq e₁).2 h
  · rw [compare_gt_iff_gt.2 h]
    exact magnitude_lt_of_exponent_lt short₂ (by omega) h

theorem compares_coe {o : Ordering} {x y : ℚ} (h : o.Compares x y) :
    o.Compares ((x : WithTop ℚ) : WithBot (WithTop ℚ)) ((y : WithTop ℚ) : WithBot (WithTop ℚ)) := by
  cases o with
  | lt => exact WithBot.coe_lt_coe.2 (WithTop.coe_lt_coe.2 h)
  | eq => exact congrArg _ (congrArg _ h)
  | gt => exact WithBot.coe_lt_coe.2 (WithTop.coe_lt_coe.2 h)

theorem compares_neg {o : Ordering} {x y : ℚ} (h : o.Compares x y) : o.swap.Compares (-x) (-y) := by
  cases o with
  | lt => exact neg_lt_neg h
  | eq => exact congrArg _ h
  | gt => exact neg_lt_neg h

/-- The model compares finite doubles as their values compare. -/
theorem compare_finite {n₁ n₂ : Bool} {m₁ m₂ : ℕ} {e₁ e₂ : ℤ}
    (h₁ : (finite n₁ m₁ e₁).Canonical) (h₂ : (finite n₂ m₂ e₂).Canonical) :
    ∃ o, (finite n₁ m₁ e₁).unpacked.compare (finite n₂ m₂ e₂).unpacked = some o ∧
      o.Compares (finite n₁ m₁ e₁).value (finite n₂ m₂ e₂).value := by
  rcases Nat.eq_zero_or_pos m₁ with rfl | p₁
  · rcases Nat.eq_zero_or_pos m₂ with rfl | p₂
    · exact ⟨.eq, rfl, by simp [value, magnitude_zero]⟩
    · have pos := magnitude_pos e₂ p₂
      rw [unpacked_finite_pos n₂ e₂ p₂]
      cases n₂
      · exact ⟨.lt, rfl, by simpa [value, magnitude_zero] using pos⟩
      · exact ⟨.gt, rfl, by simpa [value, magnitude_zero] using pos⟩
  · have pos₁ := magnitude_pos e₁ p₁
    rw [unpacked_finite_pos n₁ e₁ p₁]
    rcases Nat.eq_zero_or_pos m₂ with rfl | p₂
    · cases n₁
      · exact ⟨.gt, rfl, by simpa [value, magnitude_zero] using pos₁⟩
      · exact ⟨.lt, rfl, by simpa [value, magnitude_zero] using pos₁⟩
    · have pos₂ := magnitude_pos e₂ p₂
      have sizes := compares_magnitude h₁ h₂
      rw [unpacked_finite_pos n₂ e₂ p₂]
      -- numbers of different signs need no look at their sizes
      cases n₁ <;> cases n₂
      · exact ⟨_, rfl, sizes⟩
      · exact ⟨.gt, rfl, (neg_neg_of_pos pos₂).trans pos₁⟩
      · exact ⟨.lt, rfl, (neg_neg_of_pos pos₁).trans pos₂⟩
      · exact ⟨_, rfl, compares_neg sizes⟩

/-- The model compares numbers as their places on the line compare. -/
theorem compare_places {a b : Binary64} (ha : a.Canonical) (hb : b.Canonical)
    {x y : WithBot (WithTop ℚ)} (hx : a.place? = some x) (hy : b.place? = some y) :
    ∃ o, a.unpacked.compare b.unpacked = some o ∧ o.Compares x y := by
  cases a with
  | nan => cases hx
  | infinity n₁ =>
    cases b with
    | nan => cases hy
    | infinity n₂ =>
      cases hx
      cases hy
      cases n₁ <;> cases n₂
      · exact ⟨.eq, rfl, rfl⟩
      · exact ⟨.gt, rfl, WithBot.bot_lt_coe _⟩
      · exact ⟨.lt, rfl, WithBot.bot_lt_coe _⟩
      · exact ⟨.eq, rfl, rfl⟩
    | finite n₂ m₂ e₂ =>
      cases hx
      cases hy
      cases n₁
      · exact ⟨.gt, by cases m₂ <;> rfl, WithBot.coe_lt_coe.2 (WithTop.coe_lt_top _)⟩
      · exact ⟨.lt, by cases m₂ <;> rfl, WithBot.bot_lt_coe _⟩
  | finite n₁ m₁ e₁ =>
    cases b with
    | nan => cases hy
    | infinity n₂ =>
      cases hx
      cases hy
      cases n₂
      · exact ⟨.lt, by cases m₁ <;> rfl, WithBot.coe_lt_coe.2 (WithTop.coe_lt_top _)⟩
      · exact ⟨.gt, by cases m₁ <;> rfl, WithBot.bot_lt_coe _⟩
    | finite n₂ m₂ e₂ =>
      cases hx
      cases hy
      obtain ⟨o, ho, h⟩ := compare_finite ha hb
      exact ⟨o, ho, compares_coe h⟩

/-- What is not a number compares with nothing. -/
theorem compare_eq_none {a b : Binary64} (h : a.place? = none ∨ b.place? = none) :
    a.unpacked.compare b.unpacked = none := by
  rcases h with h | h
  · cases a <;> first | rfl | cases h
  · cases b with
    | nan =>
      cases a with
      | finite n m e => cases m <;> rfl
      | _ => rfl
    | _ => cases h

end Binary64

namespace Number

open Binary64

/-! ### Comparing doubles -/

/-- The value of a finite double. -/
def value (x : Float) : ℚ := (ofFloat x).value

/-- The place of a double on the line, unless it is not a number. -/
def place? (x : Float) : Option (WithBot (WithTop ℚ)) := (ofFloat x).place?

section Comparison

variable {a b c : Float}

/-- The model's comparison of two doubles, read off their places. -/
theorem compare_eq_some_iff {o : Ordering} :
    a.toModel.unpack.compare b.toModel.unpack = some o ↔
      ∃ x y, place? a = some x ∧ place? b = some y ∧ o.Compares x y := by
  rw [unpack_toModel, unpack_toModel]
  cases hx : (ofFloat a).place? with
  | none => simp [compare_eq_none (.inl hx), place?, hx]
  | some x =>
    cases hy : (ofFloat b).place? with
    | none => simp [compare_eq_none (.inr hy), place?, hy]
    | some y =>
      obtain ⟨o', ho', h'⟩ :=
        compare_places (canonical_ofFloat a) (canonical_ofFloat b) hx hy
      rw [ho', Option.some.injEq]
      constructor
      · rintro rfl
        exact ⟨x, y, hx, hy, h'⟩
      · rintro ⟨x', y', hx', hy', h⟩
        cases hx.symm.trans hx'
        cases hy.symm.trans hy'
        exact h'.inj h

theorem lt_iff_place : a < b ↔ ∃ x y, place? a = some x ∧ place? b = some y ∧ x < y := by
  have unfolded : a < b ↔ a.toModel.unpack.compare b.toModel.unpack = some .lt := by
    show (decide (a.toModel < b.toModel)) = true ↔ _
    rw [decide_eq_true_iff]
    exact beq_iff_eq
  rw [unfolded, compare_eq_some_iff]
  rfl

theorem beq_iff_place : (a == b) = true ↔ ∃ x, place? a = some x ∧ place? b = some x := by
  have unfolded : (a == b) = true ↔ a.toModel.unpack.compare b.toModel.unpack = some .eq := by
    show (a.toModel.unpack.compare b.toModel.unpack == some Ordering.eq) = true ↔ _
    exact beq_iff_eq
  rw [unfolded, compare_eq_some_iff]
  constructor
  · rintro ⟨x, _, hx, hy, rfl⟩
    exact ⟨x, hx, hy⟩
  · rintro ⟨x, hx, hy⟩
    exact ⟨x, x, hx, hy, rfl⟩

theorem le_iff_place : a ≤ b ↔ ∃ x y, place? a = some x ∧ place? b = some y ∧ x ≤ y := by
  have unfolded : a ≤ b ↔ (a.toModel.unpack.compare b.toModel.unpack).any (·.isLE) = true := by
    show (decide (a.toModel ≤ b.toModel)) = true ↔ _
    rw [decide_eq_true_iff]
    rfl
  rw [unfolded, Option.any_eq_true]
  constructor
  · rintro ⟨o, ho, hle⟩
    obtain ⟨x, y, hx, hy, h⟩ := compare_eq_some_iff.1 ho
    exact ⟨x, y, hx, hy, h.ne_gt.1 (by rintro rfl; cases hle)⟩
  · rintro ⟨x, y, hx, hy, h⟩
    rcases h.lt_or_eq with h | h
    · exact ⟨.lt, compare_eq_some_iff.2 ⟨x, y, hx, hy, h⟩, rfl⟩
    · exact ⟨.eq, compare_eq_some_iff.2 ⟨x, y, hx, hy, h⟩, rfl⟩

/-- Relations between places compose at the place in the middle. -/
theorem exists_places_trans {R S T : WithBot (WithTop ℚ) → WithBot (WithTop ℚ) → Prop}
    (hab : ∃ x y, place? a = some x ∧ place? b = some y ∧ R x y)
    (hbc : ∃ y z, place? b = some y ∧ place? c = some z ∧ S y z)
    (trans : ∀ x y z, R x y → S y z → T x z) :
    ∃ x z, place? a = some x ∧ place? c = some z ∧ T x z := by
  obtain ⟨x, y, hx, hy, hxy⟩ := hab
  obtain ⟨y', z, hy', hz, hyz⟩ := hbc
  cases hy.symm.trans hy'
  exact ⟨x, z, hx, hz, trans x y z hxy hyz⟩

theorem lt_trans (hab : a < b) (hbc : b < c) : a < c := by
  rw [lt_iff_place] at hab hbc ⊢
  exact exists_places_trans hab hbc fun _ _ _ => LT.lt.trans

theorem lt_irrefl : ¬ a < a := by
  intro h
  obtain ⟨x, y, hx, hy, hxy⟩ := lt_iff_place.1 h
  cases hx.symm.trans hy
  exact hxy.false

theorem le_trans (hab : a ≤ b) (hbc : b ≤ c) : a ≤ c := by
  rw [le_iff_place] at hab hbc ⊢
  exact exists_places_trans hab hbc fun _ _ _ => LE.le.trans

theorem lt_of_lt_of_le (hab : a < b) (hbc : b ≤ c) : a < c := by
  rw [lt_iff_place] at hab ⊢
  exact exists_places_trans hab (le_iff_place.1 hbc) fun _ _ _ => LT.lt.trans_le

theorem lt_of_le_of_lt (hab : a ≤ b) (hbc : b < c) : a < c := by
  rw [lt_iff_place] at hbc ⊢
  exact exists_places_trans (le_iff_place.1 hab) hbc fun _ _ _ => LE.le.trans_lt

theorem le_of_lt (h : a < b) : a ≤ b := by
  obtain ⟨x, y, hx, hy, hxy⟩ := lt_iff_place.1 h
  exact le_iff_place.2 ⟨x, y, hx, hy, hxy.le⟩

theorem le_of_beq (h : (a == b) = true) : a ≤ b := by
  obtain ⟨x, hx, hy⟩ := beq_iff_place.1 h
  exact le_iff_place.2 ⟨x, x, hx, hy, le_rfl⟩

theorem beq_comm : (a == b) = true ↔ (b == a) = true := by
  simp only [beq_iff_place, and_comm]

/-! ### Finite doubles -/

/-- A finite double has its value for its place. -/
theorem place?_of_isFinite (h : a.isFinite = true) :
    place? a = some ((value a : WithTop ℚ) : WithBot (WithTop ℚ)) := by
  obtain ⟨negative, m, e, parts⟩ := (isFinite_iff a).1 h
  rw [place?, value, parts]
  rfl

theorem lt_iff_value (ha : a.isFinite = true) (hb : b.isFinite = true) :
    a < b ↔ value a < value b := by
  rw [lt_iff_place, place?_of_isFinite ha, place?_of_isFinite hb]
  simp

theorem le_iff_value (ha : a.isFinite = true) (hb : b.isFinite = true) :
    a ≤ b ↔ value a ≤ value b := by
  rw [le_iff_place, place?_of_isFinite ha, place?_of_isFinite hb]
  simp

theorem beq_iff_value (ha : a.isFinite = true) (hb : b.isFinite = true) :
    (a == b) = true ↔ value a = value b := by
  rw [beq_iff_place, place?_of_isFinite ha, place?_of_isFinite hb]
  simp [eq_comm]

theorem not_lt_iff (ha : a.isFinite = true) (hb : b.isFinite = true) : ¬ a < b ↔ b ≤ a := by
  rw [lt_iff_value ha hb, le_iff_value hb ha, not_lt]

theorem not_le_iff (ha : a.isFinite = true) (hb : b.isFinite = true) : ¬ a ≤ b ↔ b < a := by
  rw [le_iff_value ha hb, lt_iff_value hb ha, not_le]

/-- What is not finite has no place or one of the ends of the line. -/
theorem place?_of_not_isFinite (h : a.isFinite = false) :
    place? a = none ∨ place? a = some ⊥ ∨ place? a = some ((⊤ : WithTop ℚ) : WithBot _) := by
  unfold place?
  cases parts : ofFloat a with
  | nan => exact .inl rfl
  | infinity negative => cases negative <;> simp [Binary64.place?]
  | finite n m e => exact absurd ((isFinite_iff a).2 ⟨n, m, e, parts⟩) (by simp [h])

/-- What is not finite and not less than some finite double is not less than any. -/
theorem le_of_not_isFinite_right (ha : a.isFinite = true) (hb : b.isFinite = false) (h : a ≤ b)
    (hc : c.isFinite = true) : c ≤ b := by
  obtain ⟨x, y, hx, hy, hxy⟩ := le_iff_place.1 h
  cases (place?_of_isFinite ha).symm.trans hx
  rcases place?_of_not_isFinite hb with absent | lowest | greatest
  · cases absent.symm.trans hy
  · cases lowest.symm.trans hy
    exact absurd hxy (WithBot.not_coe_le_bot _)
  · exact le_iff_place.2 ⟨_, _, place?_of_isFinite hc, greatest, WithBot.coe_le_coe.2 le_top⟩

/-- What is not finite and not greater than some finite double is not greater than any. -/
theorem le_of_not_isFinite_left (ha : a.isFinite = false) (hb : b.isFinite = true) (h : a ≤ b)
    (hc : c.isFinite = true) : a ≤ c := by
  obtain ⟨x, y, hx, hy, hxy⟩ := le_iff_place.1 h
  cases (place?_of_isFinite hb).symm.trans hy
  rcases place?_of_not_isFinite ha with absent | lowest | greatest
  · cases absent.symm.trans hx
  · exact le_iff_place.2 ⟨_, _, lowest, place?_of_isFinite hc, bot_le⟩
  · cases greatest.symm.trans hx
    exact absurd (WithBot.coe_le_coe.1 hxy) (WithTop.not_top_le_coe _)

/-! ### From zero to one -/

end Comparison

end Number

end CallToAction
