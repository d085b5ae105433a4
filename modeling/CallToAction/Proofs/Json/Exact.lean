import CallToAction.Proofs.Number.Literal

/-!
# Document numbers, read exactly

The text of a number in a document is a numeral.  A whole number is written without a point and
without an exponent, and a double never is.  The decimal that a numeral states is kept as it is, and
the double nearest to it is the double that was written.

* `Spelled.decimal`: the decimal that a numeral states;
* `writes_intRepr`: the text of a whole number is a numeral of it;
* `exists_writes_json?`: the text of a double is a numeral of it.
-/

namespace CallToAction

open Json (Numeral)
open Json.Numeral (Digits Spelled Writes WritesFraction WritesExponent)

/-! ### Digits -/

theorem head_toDigits_ne {n : ℕ} (h : n ≠ 0) : (Nat.toDigits 10 n).head? ≠ some '0' := by
  induction n using Nat.strongRecOn with
  | ind n ih =>
    by_cases small : n < 10
    · have each : ∀ k < 10, k ≠ 0 → Nat.digitChar k ≠ '0' := by decide
      simpa [Nat.toDigits_of_lt_base small] using each n small h
    · obtain ⟨d, rest, first⟩ := List.exists_cons_of_ne_nil
        (Nat.toDigits_ne_nil : Nat.toDigits 10 (n / 10) ≠ [])
      have := ih (n / 10) (by omega) (by omega)
      rw [Nat.toDigits_of_base_le (by decide) (by omega), first]
      rwa [first] at this

theorem digits_toDigits (n : ℕ) : Digits (Nat.toDigits 10 n) :=
  ⟨Nat.toDigits_ne_nil, fun _ => isDigit_of_mem_toDigits⟩

/-! ### Numerals -/

namespace Json.Numeral

namespace Spelled

/-- The decimal that a numeral states, without its sign. -/
def decimal (s : Spelled) : Decimal :=
  ⟨Literal.ofDigits (s.whole ++ s.fraction), s.exponent.getD 0 - s.fraction.length⟩

/-- A numeral without a point and without an exponent. -/
def IsWhole (s : Spelled) : Prop := s.fraction = [] ∧ s.exponent = none

instance (s : Spelled) : Decidable s.IsWhole :=
  inferInstanceAs (Decidable (s.fraction = [] ∧ s.exponent = none))

end Spelled

/-- The sign of a numeral. -/
def signChars (negative : Bool) : List Char := if negative then ['-'] else []

theorem toList_signed (negative : Bool) (cs : List Char) :
    (Number.signed negative cs).toList = signChars negative ++ cs := by
  rw [Number.signed, String.toList_ofList]
  cases negative <;> rfl

theorem writes_append (negative : Bool) {whole ds fraction cs : List Char} {exponent : Option Int}
    (digits : Digits whole) (plain : whole.head? = some '0' → whole = ['0'])
    (part : WritesFraction ds fraction) (power : WritesExponent exponent cs) :
    Writes ⟨negative, whole, ds, exponent⟩
      (signChars negative ++ (whole ++ (fraction ++ cs))) := by
  have written : Writes ⟨negative, whole, ds, exponent⟩
      (signChars negative ++ whole ++ fraction ++ cs) := .mk digits plain part power
  rwa [List.append_assoc, List.append_assoc] at written

theorem plain_toDigits (n : ℕ) :
    (Nat.toDigits 10 n).head? = some '0' → Nat.toDigits 10 n = ['0'] := by
  rcases eq_or_ne n 0 with rfl | nonzero
  · exact fun _ => rfl
  · exact fun zero => absurd zero (head_toDigits_ne nonzero)

/-- The text of a whole number is a numeral of it. -/
theorem writes_intRepr (i : ℤ) :
    Writes ⟨decide (i < 0), Nat.toDigits 10 i.natAbs, [], none⟩ (Int.repr i).toList := by
  have written := writes_append (decide (i < 0)) (digits_toDigits i.natAbs)
    (plain_toDigits i.natAbs) .absent .absent
  have text : (Int.repr i).toList = signChars (decide (i < 0)) ++ Nat.toDigits 10 i.natAbs := by
    cases i with
    | ofNat n => rw [Int.repr, Nat.repr, String.toList_ofList]; rfl
    | negSucc n =>
      rw [Int.repr, String.toList_append, Nat.repr, String.toList_ofList]
      simp [signChars, Int.negSucc_lt_zero]
  rwa [List.append_nil, List.append_nil, ← text] at written

/-- A text states a double: it is a numeral with a point or an exponent, of this sign and size. -/
def States (negative : Bool) (x : ℚ) (cs : List Char) : Prop :=
  ∃ s, Writes s cs ∧ s.negative = negative ∧ ¬ s.IsWhole ∧ s.decimal.value = x

theorem States.of_parts (negative : Bool) {whole ds fraction cs : List Char}
    {exponent : Option Int} {x : ℚ} (digits : Digits whole)
    (plain : whole.head? = some '0' → whole = ['0']) (part : WritesFraction ds fraction)
    (power : WritesExponent exponent cs) (marked : ds ≠ [] ∨ exponent ≠ none)
    (value : (⟨Literal.ofDigits (whole ++ ds), exponent.getD 0 - ds.length⟩ : Decimal).value = x) :
    States negative x (signChars negative ++ (whole ++ (fraction ++ cs))) :=
  ⟨_, writes_append negative digits plain part power, rfl, not_and_or.2 marked, value⟩

theorem States.of_point (negative : Bool) {whole ds : List Char} {x : ℚ} (digits : Digits whole)
    (plain : whole.head? = some '0' → whole = ['0']) (part : Digits ds)
    (value : (⟨Literal.ofDigits (whole ++ ds), -ds.length⟩ : Decimal).value = x) :
    States negative x (signChars negative ++ (whole ++ '.' :: ds)) := by
  have stated := States.of_parts negative digits plain (.present part) .absent (.inl part.1) rfl
  rwa [Option.getD_none, zero_sub, value, List.append_nil] at stated

section Layout

open Literal (isDigit_of_mem_zeros ofDigits_eq ofDigits_text)
open Spelling (document)

variable (negative : Bool) {d : Decimal}

theorem digits_text (d : Decimal) : Digits d.text := digits_toDigits d.digits

theorem digits_zero : Digits ['0'] := digits_toDigits 0

theorem Digits.append {ds es : List Char} (digits : Digits ds)
    (more : ∀ c ∈ es, c.isDigit = true) : Digits (ds ++ es) :=
  ⟨List.append_ne_nil_of_left_ne_nil digits.1 _,
    fun c hc => (List.mem_append.1 hc).elim (digits.2 c) (more c)⟩

theorem Digits.zeros_append {ds : List Char} (digits : Digits ds) (n : ℕ) :
    Digits (List.replicate n '0' ++ ds) :=
  ⟨List.append_ne_nil_of_right_ne_nil _ digits.1,
    fun c hc => (List.mem_append.1 hc).elim isDigit_of_mem_zeros (digits.2 c)⟩

/-- Digits and zeros, and one decimal that is zero. -/
theorem states_whole (large : 0 ≤ d.exponent) (plain : d.digits ≠ 0 ∨ d.exponent = 0) :
    States negative d.value (signChars negative ++
      (d.text ++ List.replicate d.exponent.toNat '0' ++ document.whole)) := by
  have first : (d.text ++ List.replicate d.exponent.toNat '0').head? = some '0' →
      d.text ++ List.replicate d.exponent.toNat '0' = ['0'] := by
    rcases plain with nonzero | integer
    · intro zero
      rw [List.head?_append_of_ne_nil _ d.text_ne_nil] at zero
      exact absurd zero (head_toDigits_ne nonzero)
    · rw [integer, Int.toNat_zero, List.replicate_zero, List.append_nil]
      exact plain_toDigits d.digits
  refine .of_point negative ((digits_text d).append fun _ => isDigit_of_mem_zeros) first
    digits_zero ?_
  have power : (10 : ℚ) ^ d.exponent = 10 ^ d.exponent.toNat := by
    rw [← zpow_natCast, Int.toNat_of_nonneg large]
  have digits : Literal.ofDigits (d.text ++ List.replicate d.exponent.toNat '0' ++ ['0']) =
      10 * (10 ^ d.exponent.toNat * d.digits) := by
    rw [ofDigits_eq, Nat.ofDigitChars_append, Nat.ofDigitChars_append,
      Nat.ofDigitChars_replicate_zero, ← ofDigits_eq d.text, ofDigits_text]
    simp [Nat.ofDigitChars_cons]
  rw [digits, Decimal.value, Decimal.value, power, List.length_singleton, Nat.cast_one,
    zpow_neg_one]
  push_cast
  ring

/-- Zeros between the point and the digits. -/
theorem states_small (small : d.exponent + d.text.length ≤ 0) :
    States negative d.value (signChars negative ++
      ('0' :: '.' :: (List.replicate (-(d.exponent + d.text.length)).toNat '0' ++ d.text))) := by
  refine .of_point negative digits_zero (fun _ => rfl) ((digits_text d).zeros_append _) ?_
  have digits : Literal.ofDigits (['0'] ++
      (List.replicate (-(d.exponent + d.text.length)).toNat '0' ++ d.text)) = d.digits := by
    rw [ofDigits_eq, Nat.ofDigitChars_append, Nat.ofDigitChars_append,
      Nat.ofDigitChars_replicate_zero]
    exact ofDigits_text d
  have exponent : (-(List.replicate (-(d.exponent + d.text.length)).toNat '0'
      ++ d.text).length : ℤ) = d.exponent := by
    rw [List.length_append, List.length_replicate]
    omega
  rw [digits, exponent]

/-- The point between the digits. -/
theorem states_pointed (low : d.exponent < 0) (high : 0 < d.exponent + d.text.length) :
    States negative d.value (signChars negative ++
      (d.text.take (d.exponent + d.text.length).toNat ++
        '.' :: d.text.drop (d.exponent + d.text.length).toNat)) := by
  have nonzero : d.digits ≠ 0 := by
    intro zero
    have single : d.text.length = 1 := by rw [Decimal.text, zero]; rfl
    omega
  have whole : Digits (d.text.take (d.exponent + d.text.length).toNat) := by
    refine ⟨?_, fun c hc => d.isDigit_of_mem_text (List.mem_of_mem_take hc)⟩
    rw [Ne, List.take_eq_nil_iff]
    exact fun none => none.elim (by omega) d.text_ne_nil
  have part : Digits (d.text.drop (d.exponent + d.text.length).toNat) := by
    refine ⟨?_, fun c hc => d.isDigit_of_mem_text (List.mem_of_mem_drop hc)⟩
    rw [Ne, List.drop_eq_nil_iff]
    omega
  refine .of_point negative whole (fun zero => ?_) part ?_
  · rw [List.head?_take, if_neg (by omega)] at zero
    exact absurd zero (head_toDigits_ne nonzero)
  · have exponent :
        (-(d.text.drop (d.exponent + d.text.length).toNat).length : ℤ) = d.exponent := by
      rw [List.length_drop]
      omega
    rw [List.take_append_drop, ofDigits_text, exponent]

/-- One digit before the point, and an exponent. -/
theorem states_scientifically (d : Decimal) :
    States negative d.value (signChars negative ++ Spelling.scientifically d) := by
  have first : ∃ c, d.text.take 1 = [c] := by
    obtain ⟨c, rest, text⟩ := List.exists_cons_of_ne_nil d.text_ne_nil
    exact ⟨c, by rw [text]; rfl⟩
  have whole : Digits (d.text.take 1) := by
    refine ⟨?_, fun c hc => d.isDigit_of_mem_text (List.mem_of_mem_take hc)⟩
    obtain ⟨c, text⟩ := first
    rw [text]
    exact List.cons_ne_nil _ _
  have plain : (d.text.take 1).head? = some '0' → d.text.take 1 = ['0'] := by
    obtain ⟨c, text⟩ := first
    rw [text]
    rintro ⟨⟩
    rfl
  have part : WritesFraction (d.text.drop 1)
      (if (d.text.drop 1).isEmpty then [] else '.' :: d.text.drop 1) := by
    cases more : d.text.drop 1 with
    | nil => exact .absent
    | cons c rest =>
      refine .present ⟨List.cons_ne_nil _ _, fun c' hc => d.isDigit_of_mem_text ?_⟩
      exact List.mem_of_mem_drop (more ▸ hc)
  have power : WritesExponent (some d.leading)
      ('e' :: [if d.leading < 0 then '-' else '+'] ++ Nat.toDigits 10 d.leading.natAbs) := by
    have back : Literal.ofDigits (Nat.toDigits 10 d.leading.natAbs) = d.leading.natAbs :=
      Nat.ofDigitChars_ten_toDigits
    have digits := digits_toDigits d.leading.natAbs
    split_ifs with negative
    · have written := WritesExponent.present (.inl rfl) .minus digits
      rwa [back, if_pos rfl, Int.ofNat_natAbs_of_nonpos negative.le, neg_neg] at written
    · have written := WritesExponent.present (.inl rfl) .plus digits
      rwa [back, if_neg Bool.false_ne_true, Int.natAbs_of_nonneg (not_lt.1 negative)] at written
  have exponent : d.leading - (d.text.drop 1).length = d.exponent := by
    have some := List.length_pos_iff.2 d.text_ne_nil
    rw [List.length_drop, Decimal.leading]
    omega
  have stated := States.of_parts negative whole plain part power (.inr (Option.some_ne_none _)) rfl
  rw [List.take_append_drop, ofDigits_text, Option.getD_some, exponent] at stated
  unfold Spelling.scientifically
  simpa only [List.append_assoc] using stated

/-- A decimal as a document lays it out. -/
theorem states_unsigned (plain : d.digits ≠ 0 ∨ d.exponent = 0) :
    States negative d.value (signChars negative ++ document.unsigned d) := by
  unfold Spelling.unsigned Spelling.positionally
  dsimp only
  split_ifs with positional large small
  · exact states_whole negative large plain
  · exact states_small negative small
  · exact states_pointed negative (by omega) (by omega)
  · exact states_scientifically negative d

end Layout

/-- The digits of a finite double state a decimal that rounds to it. -/
theorem exists_states_magnitude {negative : Bool} {m : ℕ} {e : ℤ}
    (canonical : (Binary64.finite negative m e).Canonical) :
    ∃ x, Band.Rounds m e x ∧
      States negative x (signChars negative ++ Spelling.document.magnitude m e) := by
  unfold Spelling.magnitude
  split_ifs with zero
  · refine ⟨_, ?_, states_unsigned negative (.inr rfl)⟩
    rw [zero, show (⟨0, 0⟩ : Decimal).value = 0 by simp [Decimal.value]]
    exact Band.rounds_zero e
  · have pos := Nat.pos_of_ne_zero zero
    have rounds := Band.rounds_shortest e Spelling.document.tie pos canonical.1
    refine ⟨_, rounds, states_unsigned negative (.inl fun none => ?_)⟩
    -- the band of a positive double does not reach down to zero
    have low := rounds.between.1
    rw [Decimal.value, none, Nat.cast_zero, zero_mul] at low
    have above : (0 : ℚ) < m - Band.reach m e := by
      have whole : (1 : ℚ) ≤ m := by exact_mod_cast pos
      linarith [Band.reach_le m e]
    exact absurd low (mul_pos above (by positivity)).not_ge

/-- **The text of a double states the double**: it is a numeral with a point or an exponent, and the
double nearest to the decimal that it states is the double that was written. -/
theorem exists_writes_json? {x : Float} {t : String} (printed : Number.json? x = some t) :
    ∃ s, Writes s t.toList ∧ ¬ s.IsWhole ∧
      Binary64.ofDecimal s.negative s.decimal.digits s.decimal.exponent = x := by
  have canonical := Binary64.canonical_ofFloat x
  unfold Number.json? at printed
  cases parts : Binary64.ofFloat x with
  | finite negative m e =>
    rw [parts] at printed canonical
    cases printed
    obtain ⟨q, rounds, s, written, rfl, marked, rfl⟩ := exists_states_magnitude canonical
    refine ⟨s, ?_, marked, Binary64.ofDecimal_eq_of_rounds parts rounds⟩
    rwa [toList_signed]
  | _ =>
    rw [parts] at printed
    cases printed

end Json.Numeral

end CallToAction
