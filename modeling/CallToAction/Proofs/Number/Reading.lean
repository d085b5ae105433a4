import CallToAction.Number.Literal
import CallToAction.Proofs.Number.Shortest
import CallToAction.Proofs.Number.Written

/-!
# Written numbers read back

The reader of literals takes the text of a double apart into a literal that stands for this double:
its sign is the sign of the double, and its value rounds to the double.  A literal stands for one
double only, so the text of a double tells the double, up to the many doubles that are not a number.

* `Literal.StandsFor`, `Literal.StandsFor.unique`: a literal stands for one double;
* `Spelling.decimal?_positionally`: the digits of a decimal read as its value;
* `Number.standsFor_text`: the text of a double reads as a literal of it;
* `Number.ofFloat_eq_of_text_eq`, `Number.text_injective`: doubles of one text are one double.
-/

namespace CallToAction

/-! ### What a literal stands for -/

namespace Literal

/-- A literal stands for a double: their signs agree, and what is finite rounds to the double. -/
def StandsFor : Literal → Binary64 → Prop
  | nan, .nan => True
  | infinity negative, .infinity negative' => negative = negative'
  | decimal negative digits exponent, .finite negative' m e =>
    negative = negative' ∧ Band.Rounds m e (⟨digits, exponent⟩ : Decimal).value
  | _, _ => False

/-- A literal stands for one double only. -/
theorem StandsFor.unique {l : Literal} {a b : Binary64} (here : l.StandsFor a)
    (there : l.StandsFor b) (ha : a.Canonical) (hb : b.Canonical) : a = b := by
  cases l with
  | nan =>
    cases a <;> cases here
    cases b <;> cases there
    rfl
  | infinity negative =>
    cases a <;> cases here
    cases b <;> cases there
    rfl
  | decimal negative digits exponent =>
    cases a with
    | finite n m e =>
      cases b with
      | finite n' m' e' =>
        obtain ⟨rfl, here⟩ := here
        obtain ⟨rfl, there⟩ := there
        obtain ⟨rfl, rfl⟩ := Band.eq_of_rounds ha hb here there
        rfl
      | _ => exact there.elim
    | _ => exact here.elim

/-! ### Reading digits and a point -/

theorem ofDigits_eq (cs : List Char) : ofDigits cs = Nat.ofDigitChars 10 cs 0 := rfl

theorem ofDigits_text (d : Decimal) : ofDigits d.text = d.digits := Nat.ofDigitChars_ten_toDigits

theorem isDigit_of_mem_zeros {n : ℕ} {c : Char} (h : c ∈ List.replicate n '0') :
    c.isDigit = true := by
  rw [List.eq_of_mem_replicate h]
  rfl

/-- A digit is not a sign. -/
theorem sign_of_isDigit {d : Char} (digit : d.isDigit = true) (rest : List Char) :
    sign (d :: rest) = (false, d :: rest) := by
  unfold sign
  split
  · rename_i minus
    cases minus
    cases digit
  · rename_i plus
    cases plus
    cases digit
  · rfl

section Digits

variable {whole part : List Char}

/-- The digits at the beginning of a text are taken off it. -/
theorem span_append {rest : List Char} (digits : ∀ c ∈ whole, c.isDigit = true)
    (apart : ∀ c ∈ rest.head?, c.isDigit = false) :
    (whole ++ rest).span Char.isDigit = (whole, rest) := by
  have stop : rest.takeWhile Char.isDigit = [] ∧ rest.dropWhile Char.isDigit = rest := by
    cases rest with
    | nil => exact ⟨rfl, rfl⟩
    | cons c cs => simp [apart c rfl]
  rw [List.span_eq_takeWhile_dropWhile, List.takeWhile_append_of_pos digits,
    List.dropWhile_append_of_pos digits, stop.1, stop.2, List.append_nil]

theorem span_digits (digits : ∀ c ∈ whole, c.isDigit = true) :
    whole.span Char.isDigit = (whole, []) := by
  have whole_nil : (whole ++ []).span Char.isDigit = (whole, []) := span_append digits (by simp)
  rwa [List.append_nil] at whole_nil

theorem span_digits_point (digits : ∀ c ∈ whole, c.isDigit = true) :
    (whole ++ '.' :: part).span Char.isDigit = (whole, '.' :: part) :=
  span_append digits (by simp)

/-- Digits without a point are a whole number. -/
theorem decimal?_digits (digits : ∀ c ∈ whole, c.isDigit = true) (nonempty : whole ≠ [])
    (negative : Bool) : decimal? negative whole = some (decimal negative (ofDigits whole) 0) := by
  unfold decimal?
  rw [span_digits digits]
  simp [fraction, exponent?, guard, nonempty]

/-- The digits behind a point lower the exponent. -/
theorem decimal?_point (digits : ∀ c ∈ whole, c.isDigit = true) (nonempty : whole ≠ [])
    (digits' : ∀ c ∈ part, c.isDigit = true) (negative : Bool) :
    decimal? negative (whole ++ '.' :: part) =
      some (decimal negative (ofDigits (whole ++ part)) (-part.length)) := by
  have behind : fraction ('.' :: part) = (part, []) := span_digits digits'
  unfold decimal?
  rw [span_digits_point digits]
  simp [behind, exponent?, guard, nonempty]

end Digits

end Literal

/-! ### Decimals -/

namespace Spelling

open Literal

/-- The digits of a decimal, laid out with a point or with zeros, read as its value. -/
theorem decimal?_positionally (negative : Bool) (d : Decimal) :
    ∃ digits exponent,
      decimal? negative (plain.positionally d) = some (.decimal negative digits exponent) ∧
      (⟨digits, exponent⟩ : Decimal).value = d.value := by
  have text_digits : ∀ c ∈ d.text, c.isDigit = true := fun _ => d.isDigit_of_mem_text
  unfold positionally
  dsimp only
  split_ifs with large small
  · -- zeros stand for the positive exponent
    have digits : ofDigits (d.text ++ List.replicate d.exponent.toNat '0') =
        10 ^ d.exponent.toNat * d.digits := by
      rw [ofDigits_eq, Nat.ofDigitChars_append, Nat.ofDigitChars_replicate_zero, ← ofDigits_eq,
        ofDigits_text]
    have power : (10 : ℚ) ^ d.exponent = 10 ^ d.exponent.toNat := by
      rw [← zpow_natCast, Int.toNat_of_nonneg large]
    rw [show plain.whole = [] from rfl, List.append_nil]
    refine ⟨_, _, decimal?_digits ?_ (by simp [d.text_ne_nil]) negative, ?_⟩
    · intro c hc
      exact (List.mem_append.1 hc).elim (text_digits c) isDigit_of_mem_zeros
    · rw [digits, Decimal.value, Decimal.value, power, zpow_zero]
      push_cast
      ring
  · -- zeros stand between the point and the digits
    have digits : ofDigits (['0'] ++
        (List.replicate (-(d.exponent + d.text.length)).toNat '0' ++ d.text)) = d.digits := by
      rw [ofDigits_eq, Nat.ofDigitChars_append, Nat.ofDigitChars_append,
        Nat.ofDigitChars_replicate_zero]
      exact ofDigits_text d
    have zero : ∀ c ∈ ['0'], c.isDigit = true := by simp
    refine ⟨_, _, decimal?_point zero (by simp) ?_ negative, ?_⟩
    · intro c hc
      exact (List.mem_append.1 hc).elim isDigit_of_mem_zeros (text_digits c)
    · simp only [digits, Decimal.value, List.length_append, List.length_replicate]
      congr 2
      omega
  · -- the point stands between the digits
    refine ⟨_, _, decimal?_point (fun c hc => text_digits c (List.mem_of_mem_take hc)) ?_
      (fun c hc => text_digits c (List.mem_of_mem_drop hc)) negative, ?_⟩
    · rw [Ne, List.take_eq_nil_iff]
      exact fun none => none.elim (by omega) d.text_ne_nil
    · simp only [List.take_append_drop, ofDigits_text, Decimal.value, List.length_drop]
      congr 2
      omega

end Spelling

/-! ### Doubles -/

namespace Number

open Literal (StandsFor)

/-- The digits of a finite double read as a literal of it. -/
theorem standsFor_magnitude {negative : Bool} {m : ℕ} {e : ℤ}
    (canonical : (Binary64.finite negative m e).Canonical) :
    ∃ l, Literal.decimal? negative (Spelling.plain.magnitude m e) = some l ∧
      l.StandsFor (.finite negative m e) := by
  unfold Spelling.magnitude
  split_ifs with zero
  · obtain ⟨digits, exponent, read, value⟩ := Spelling.decimal?_positionally negative ⟨0, 0⟩
    refine ⟨.decimal negative digits exponent, read, rfl, ?_⟩
    rw [value, zero, show (⟨0, 0⟩ : Decimal).value = 0 by simp [Decimal.value]]
    exact Band.rounds_zero e
  · obtain ⟨digits, exponent, read, value⟩ := Spelling.decimal?_positionally negative
      ((Band.ofParts m e).shortest Spelling.plain.tie)
    refine ⟨.decimal negative digits exponent, read, rfl, ?_⟩
    rw [value]
    exact Band.rounds_shortest e _ (Nat.pos_of_ne_zero zero) canonical.1

/-- A sign, if there is one, is taken off the digits. -/
theorem ofText?_signed {negative : Bool} {cs : List Char} (h : Unsigned cs) :
    Literal.ofText? (signed negative cs) =
      (Literal.decimal? negative cs <|> Literal.named? negative cs) := by
  have signs : Literal.sign (signed negative cs).toList = (negative, cs) := by
    rw [signed, String.toList_ofList]
    cases negative with
    | true => rfl
    | false =>
      obtain ⟨d, rest, rfl, digit, -⟩ := h
      exact Literal.sign_of_isDigit digit rest
  rw [Literal.ofText?, signs]

/-- **The text of a double reads as a literal that stands for it.** -/
theorem standsFor_text (x : Float) :
    ∃ l, Literal.ofText? (text x) = some l ∧ l.StandsFor (Binary64.ofFloat x) := by
  have canonical := Binary64.canonical_ofFloat x
  unfold text
  cases parts : Binary64.ofFloat x with
  | nan => exact ⟨.nan, by decide, trivial⟩
  | infinity negative => exact ⟨.infinity negative, by cases negative <;> decide, rfl⟩
  | finite negative m e =>
    rw [parts] at canonical
    obtain ⟨l, read, stands⟩ := standsFor_magnitude canonical
    refine ⟨l, ?_, stands⟩
    show Literal.ofText? (signed negative (Spelling.plain.magnitude m e)) = some l
    rw [ofText?_signed (Spelling.unsigned_magnitude (List.all_eq_true.1 (by decide)) m e), read]
    rfl

/-- Doubles of one text are one double, or both are not a number. -/
theorem ofFloat_eq_of_text_eq {x y : Float} (same : text x = text y) :
    Binary64.ofFloat x = Binary64.ofFloat y := by
  obtain ⟨l, read, stands⟩ := standsFor_text x
  obtain ⟨l', read', stands'⟩ := standsFor_text y
  rw [same, read'] at read
  cases read
  exact stands.unique stands' (Binary64.canonical_ofFloat x) (Binary64.canonical_ofFloat y)

theorem text_injective {x y : Float} (same : text x = text y) : x = y :=
  Binary64.ofFloat_injective (ofFloat_eq_of_text_eq same)

end Number

end CallToAction
