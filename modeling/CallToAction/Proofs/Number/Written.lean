import CallToAction.Number.Spelling
import CallToAction.Proofs.Number.Line

/-!
# The characters of written numbers

A finite double is written with a sign or none, a digit, and then digits, points, exponent marks and
signs, in both of its forms.  A double that is not finite has no form in documents.

* `Figures`: a sign or none, a digit, and then characters of numbers;
* `json?_eq_none_iff`: which doubles documents have no form for;
* `figures_text`, `figures_json?`: the characters of written numbers.
-/

namespace CallToAction

/-! ### The characters of numbers -/

/-- The characters that numbers are written with. -/
def isFigure (c : Char) : Bool := c.isDigit || c == '.' || c == 'e' || c == '+' || c == '-'

/-- A digit, and then characters of numbers. -/
def Unsigned (cs : List Char) : Prop :=
  ∃ d rest, cs = d :: rest ∧ d.isDigit = true ∧ ∀ c ∈ rest, isFigure c = true

/-- A sign or none, a digit, and then characters of numbers. -/
def Figures (cs : List Char) : Prop :=
  ∃ sign rest, cs = sign ++ rest ∧ (sign = [] ∨ sign = ['-']) ∧ Unsigned rest

theorem ne_of_isDigit {c d : Char} (h : c.isDigit = true) (other : d.isDigit = false) :
    c ≠ d := by
  rintro rfl
  cases h.symm.trans other

theorem toLower_of_isDigit {c : Char} (h : c.isDigit = true) : c.toLower = c := by
  refine dif_neg fun upper => ?_
  simp only [Char.isDigit, Bool.and_eq_true, decide_eq_true_eq] at h
  exact absurd (UInt32.le_trans upper.1 h.2) (by decide)

theorem isFigure_of_isDigit {c : Char} (h : c.isDigit = true) : isFigure c = true := by
  simp [isFigure, h]

theorem isDigit_of_mem_toDigits {n : ℕ} {c : Char} (h : c ∈ Nat.toDigits 10 n) :
    c.isDigit = true :=
  Nat.isDigit_of_mem_toDigits (by decide) (by decide) h

theorem Unsigned.append {cs more : List Char} (h : Unsigned cs)
    (figures : ∀ c ∈ more, isFigure c = true) : Unsigned (cs ++ more) := by
  obtain ⟨d, rest, rfl, digit, later⟩ := h
  refine ⟨d, rest ++ more, rfl, digit, fun c hc => ?_⟩
  rcases List.mem_append.1 hc with hc | hc
  · exact later c hc
  · exact figures c hc

theorem Figures.isFigure {cs : List Char} (h : Figures cs) : ∀ c ∈ cs, isFigure c = true := by
  obtain ⟨_, _, rfl, signed, d, rest, rfl, digit, figures⟩ := h
  intro c hc
  rcases List.mem_append.1 hc with hc | hc
  · rcases signed with rfl | rfl
    · cases hc
    · rw [List.mem_singleton.1 hc]
      rfl
  · rcases List.mem_cons.1 hc with rfl | hc
    · exact isFigure_of_isDigit digit
    · exact figures c hc

theorem unsigned_of_digits {cs : List Char} (some : cs ≠ []) (digits : ∀ c ∈ cs, c.isDigit = true) :
    Unsigned cs := by
  obtain ⟨d, rest, rfl⟩ := List.exists_cons_of_ne_nil some
  exact ⟨d, rest, rfl, digits d List.mem_cons_self, fun c hc =>
    isFigure_of_isDigit (digits c (List.mem_cons_of_mem _ hc))⟩

/-! ### Decimals -/

namespace Decimal

variable (d : Decimal)

theorem isDigit_of_mem_text {c : Char} (h : c ∈ d.text) : c.isDigit = true :=
  isDigit_of_mem_toDigits h

theorem text_ne_nil : d.text ≠ [] := Nat.toDigits_ne_nil

/-- The first digits, at least one. -/
theorem unsigned_take {n : Nat} (h : n ≠ 0) : Unsigned (d.text.take n) := by
  refine unsigned_of_digits ?_ fun c hc => d.isDigit_of_mem_text (List.mem_of_mem_take hc)
  rw [Ne, List.take_eq_nil_iff]
  exact fun none => none.elim h d.text_ne_nil

end Decimal

namespace Spelling

variable {s : Spelling} (d : Decimal)

theorem unsigned_positionally (whole : ∀ c ∈ s.whole, isFigure c = true) :
    Unsigned (s.positionally d) := by
  have zeros (n : Nat) : ∀ c ∈ List.replicate n '0', isFigure c = true := by
    rintro c hc
    rw [List.eq_of_mem_replicate hc]
    decide
  have text : Unsigned d.text := unsigned_of_digits d.text_ne_nil fun _ => d.isDigit_of_mem_text
  unfold positionally
  dsimp only
  split
  · exact (text.append (zeros _)).append whole
  · split
    · refine ⟨'0', _, rfl, by decide, ?_⟩
      rintro c (_ | ⟨_, hc⟩)
      · decide
      · rcases List.mem_append.1 hc with hc | hc
        · exact zeros _ c hc
        · exact isFigure_of_isDigit (d.isDigit_of_mem_text hc)
    · refine (d.unsigned_take (by omega)).append ?_
      rintro c (_ | ⟨_, hc⟩)
      · decide
      · exact isFigure_of_isDigit (d.isDigit_of_mem_text (List.mem_of_mem_drop hc))

theorem unsigned_scientifically : Unsigned (scientifically d) := by
  have fraction : ∀ c ∈ (if (d.text.drop 1).isEmpty then [] else '.' :: d.text.drop 1),
      isFigure c = true := by
    intro c hc
    split at hc
    · cases hc
    · rcases hc with _ | ⟨_, hc⟩
      · decide
      · exact isFigure_of_isDigit (d.isDigit_of_mem_text (List.mem_of_mem_drop hc))
  have mark : ∀ c ∈ ['e', if d.leading < 0 then '-' else '+'], isFigure c = true := by
    split <;> exact List.all_eq_true.1 (by decide)
  have power : ∀ c ∈ Nat.toDigits 10 d.leading.natAbs, isFigure c = true := fun c hc =>
    isFigure_of_isDigit (isDigit_of_mem_toDigits hc)
  exact (((d.unsigned_take (by decide)).append fraction).append mark).append power

theorem unsigned_unsigned (whole : ∀ c ∈ s.whole, isFigure c = true) : Unsigned (s.unsigned d) := by
  unfold Spelling.unsigned
  split
  · exact unsigned_positionally d whole
  · exact unsigned_scientifically d

theorem unsigned_magnitude (whole : ∀ c ∈ s.whole, isFigure c = true) (m : Nat) (e : Int) :
    Unsigned (s.magnitude m e) := by
  unfold magnitude
  split <;> exact unsigned_unsigned _ whole

end Spelling

/-! ### Doubles -/

namespace Number

theorem json?_eq_none_iff (v : Float) : json? v = none ↔ v.isFinite = false := by
  rw [← Bool.not_eq_true, Binary64.isFinite_iff, json?]
  cases Binary64.ofFloat v <;> simp

theorem figures_signed {negative : Bool} {cs : List Char} (h : Unsigned cs) :
    Figures (signed negative cs).toList := by
  rw [signed, String.toList_ofList]
  cases negative with
  | true => exact ⟨['-'], cs, rfl, .inr rfl, h⟩
  | false => exact ⟨[], cs, rfl, .inl rfl, h⟩

theorem figures_text {v : Float} (finite : v.isFinite = true) : Figures (text v).toList := by
  obtain ⟨negative, m, e, parts⟩ := (Binary64.isFinite_iff v).1 finite
  rw [text, parts]
  exact figures_signed (Spelling.unsigned_magnitude (List.all_eq_true.1 (by decide)) m e)

theorem figures_json? {v : Float} {t : String} (printed : json? v = some t) :
    Figures t.toList := by
  unfold json? at printed
  split at printed
  · cases printed
    exact figures_signed (Spelling.unsigned_magnitude (List.all_eq_true.1 (by decide)) _ _)
  · cases printed

end Number

end CallToAction
