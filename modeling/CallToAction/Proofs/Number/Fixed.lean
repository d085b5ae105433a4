import CallToAction.Proofs.Number.Nearest
import CallToAction.Proofs.Number.Reading

/-!
# Numbers with a fixed number of places

With a number of decimal places a double is written as the decimal with so many places that is
closest to it.  The reader takes exactly this decimal from the text, so a double that is written in
this way and read back becomes the double nearest to the decimal.

* `cast_scaled`: the digits that are written are those of the exact rounding;
* `decimal?_pointed`: digits with a point are read as the decimal that they write;
* `read_fixed`: a double read back from its text with a fixed number of places.
-/

namespace CallToAction.Number

/-- The units of the last place are counted by exact rounding. -/
theorem cast_scaled (places m : ℕ) (e : ℤ) :
    ((scaled places m e : ℕ) : ℤ) = roundEven (10 ^ places * Binary64.magnitude m e) := by
  have one : (0 : ℚ) < (twoTo (-e).toNat : ℕ) := by exact_mod_cast twoTo_pos _
  have quotient : ((m * tenTo places * twoTo e.toNat : ℕ) : ℚ) / (twoTo (-e).toNat : ℕ) =
      10 ^ places * Binary64.magnitude m e := by
    rw [div_eq_iff one.ne', Nat.cast_mul, Nat.cast_mul, cast_tenTo, cast_twoTo, cast_twoTo,
      ← zpow_mul_pow_toNat (by norm_num), Binary64.magnitude]
    ring
  rw [scaled, ← roundEven_div _ (twoTo_pos _), quotient]

/-! ### Digits with a point -/

/-- The digits behind the point are as many as there are places. -/
theorem length_padded {places n : ℕ} (some : places ≠ 0) (h : n < tenTo places) :
    (List.replicate (places - (Nat.toDigits 10 n).length) '0' ++ Nat.toDigits 10 n).length =
      places := by
  have fits : (Nat.toDigits 10 n).length ≤ places :=
    (Nat.length_toDigits_le_iff (by decide) (Nat.pos_of_ne_zero some)).2 h
  rw [List.length_append, List.length_replicate, Nat.sub_add_cancel fits]

/-- Digits with a point are read as the decimal that they write. -/
theorem decimal?_pointed (negative : Bool) (places n : ℕ) :
    Literal.decimal? negative (pointed places n) = some (.decimal negative n (-places)) := by
  unfold pointed
  dsimp only
  split_ifs with none
  · have all : n / tenTo places = n := by rw [none]; exact Nat.div_one n
    rw [Literal.decimal?_digits (fun _ => isDigit_of_mem_toDigits) Nat.toDigits_ne_nil, all, none,
      Literal.ofDigits_eq, Nat.ofDigitChars_ten_toDigits]
    rfl
  · have part := length_padded none (Nat.mod_lt n (tenTo_pos places))
    have digits : ∀ c ∈ List.replicate (places - (Nat.toDigits 10 (n % tenTo places)).length) '0' ++
        Nat.toDigits 10 (n % tenTo places), c.isDigit = true := fun c hc =>
      (List.mem_append.1 hc).elim Literal.isDigit_of_mem_zeros isDigit_of_mem_toDigits
    have value : Literal.ofDigits (Nat.toDigits 10 (n / tenTo places) ++
        (List.replicate (places - (Nat.toDigits 10 (n % tenTo places)).length) '0' ++
          Nat.toDigits 10 (n % tenTo places))) = n := by
      rw [Literal.ofDigits_eq, Nat.ofDigitChars_append, Nat.ofDigitChars_eq_ofDigitChars_zero, part,
        Nat.ofDigitChars_ten_toDigits, Nat.ofDigitChars_append, Nat.ofDigitChars_replicate_zero,
        Nat.mul_zero, Nat.ofDigitChars_ten_toDigits]
      exact Nat.div_add_mod n (tenTo places)
    rw [Literal.decimal?_point (fun _ => isDigit_of_mem_toDigits) Nat.toDigits_ne_nil digits, value,
      part]

theorem unsigned_pointed (places n : ℕ) : Unsigned (pointed places n) := by
  have whole : Unsigned (Nat.toDigits 10 (n / tenTo places)) :=
    unsigned_of_digits Nat.toDigits_ne_nil fun _ => isDigit_of_mem_toDigits
  unfold pointed
  dsimp only
  split_ifs with none
  · exact whole
  · refine whole.append ?_
    rintro c (_ | ⟨_, hc⟩)
    · decide
    · exact isFigure_of_isDigit
        ((List.mem_append.1 hc).elim Literal.isDigit_of_mem_zeros isDigit_of_mem_toDigits)

/-! ### Doubles -/

/-- A finite double is read back as the double nearest to the decimal that was written. -/
theorem read_fixed {x : Float} {negative : Bool} {m : ℕ} {e : ℤ}
    (parts : Binary64.ofFloat x = .finite negative m e) (places : ℕ) :
    read (fixed places x) =
      .ok (Binary64.ofDecimal negative (scaled places m e) (-places)) := by
  have text : fixed places x = signed negative (pointed places (scaled places m e)) := by
    rw [fixed, parts]
  have taken : Literal.ofText? (fixed places x) =
      some (.decimal negative (scaled places m e) (-places)) := by
    rw [text, ofText?_signed (unsigned_pointed _ _), decimal?_pointed]
    rfl
  rw [read, taken]
  rfl

end CallToAction.Number
