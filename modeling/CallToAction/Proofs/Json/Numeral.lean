import CallToAction.Json.Numeral
import Mathlib.Tactic.SplitIfs

/-!
# The grammar of numerals

A numeral is a sign that may be left out, digits without a needless zero, and a fraction and an
exponent that may be left out.  The reader of numerals takes exactly the numeral off a text at whose
end nothing follows that could belong to it.

* `Numeral.Writes`: the grammar;
* `writes_of_spelled`: what the reader takes off a text is a numeral;
* `spelled_append`: the reader takes a numeral off a text;
* `read_append`: the number that is read does not depend on what follows.
-/

namespace CallToAction.Json.Numeral

/-! ### The grammar -/

/-- At least one digit, and nothing else. -/
def Digits (cs : List Char) : Prop := cs ≠ [] ∧ ∀ c ∈ cs, c.isDigit = true

/-- A fraction, with its digits. -/
inductive WritesFraction : List Char → List Char → Prop
  | absent : WritesFraction [] []
  | present {ds : List Char} (digits : Digits ds) : WritesFraction ds ('.' :: ds)

/-- The sign of an exponent: whether it is a minus sign. -/
inductive WritesSign : Bool → List Char → Prop
  | absent : WritesSign false []
  | plus : WritesSign false ['+']
  | minus : WritesSign true ['-']

/-- An exponent, with its value. -/
inductive WritesExponent : Option Int → List Char → Prop
  | absent : WritesExponent none []
  | present {mark : Char} {negative : Bool} {sign ds : List Char} (marked : mark = 'e' ∨ mark = 'E')
    (signed : WritesSign negative sign) (digits : Digits ds) :
    WritesExponent (some (if negative then -(Literal.ofDigits ds : Int) else Literal.ofDigits ds))
      (mark :: sign ++ ds)

/-- A numeral, with its parts. -/
inductive Writes : Spelled → List Char → Prop
  | mk {negative : Bool} {whole ds fraction cs : List Char} {exponent : Option Int}
    (digits : Digits whole) (plain : whole.head? = some '0' → whole = ['0'])
    (part : WritesFraction ds fraction) (power : WritesExponent exponent cs) :
    Writes ⟨negative, whole, ds, exponent⟩
      ((if negative then ['-'] else []) ++ whole ++ fraction ++ cs)

/-- A text that does not continue a numeral. -/
def Delimits (rest : List Char) : Prop :=
  ∀ c ∈ rest.head?, c.isDigit = false ∧ c ≠ '.' ∧ c ≠ 'e' ∧ c ≠ 'E'

/-! ### Reading takes numerals -/

theorem digits_of_digits {cs ds rest : List Char} (h : digits cs = .ok (ds, rest)) :
    Digits ds ∧ cs = ds ++ rest := by
  unfold digits at h
  split_ifs at h with none
  cases h
  exact ⟨⟨none, List.all_eq_true.1 List.all_takeWhile⟩,
    List.takeWhile_append_dropWhile.symm⟩

theorem digits_of_whole {cs ds rest : List Char} (h : whole cs = .ok (ds, rest)) :
    Digits ds ∧ (ds.head? = some '0' → ds = ['0']) ∧ cs = ds ++ rest := by
  unfold whole at h
  split at h
  · cases h
  · rename_i other
    obtain ⟨digits, rfl⟩ := digits_of_digits h
    refine ⟨digits, fun zero => ?_, rfl⟩
    match ds with
    | [c] => simpa using zero
    | c :: d :: ds =>
      simp only [List.head?_cons, Option.some.injEq] at zero
      subst zero
      exact absurd h (other _ _ _)

theorem writes_of_fraction {cs ds rest : List Char} (h : fraction cs = .ok (ds, rest)) :
    ∃ t, WritesFraction ds t ∧ cs = t ++ rest := by
  unfold fraction at h
  split at h
  · obtain ⟨digits, rfl⟩ := digits_of_digits h
    exact ⟨_, .present digits, rfl⟩
  · cases h
    exact ⟨_, .absent, rfl⟩

theorem writes_sign (cs : List Char) :
    ∃ t, WritesSign (Literal.sign cs).1 t ∧ cs = t ++ (Literal.sign cs).2 := by
  unfold Literal.sign
  split
  · exact ⟨_, .minus, rfl⟩
  · exact ⟨_, .plus, rfl⟩
  · exact ⟨_, .absent, rfl⟩

theorem writes_of_exponent {cs rest : List Char} {e : Option Int}
    (h : exponent cs = .ok (e, rest)) : ∃ t, WritesExponent e t ∧ cs = t ++ rest := by
  unfold exponent at h
  split at h
  · cases h
    exact ⟨_, .absent, rfl⟩
  · rename_i c cs
    obtain ⟨sign, signed, cs_eq⟩ := writes_sign cs
    dsimp only at h
    by_cases marked : c = 'e' ∨ c = 'E'
    · rw [if_pos marked] at h
      split at h
      · rename_i ds rest' found
        cases h
        obtain ⟨digits, rest_eq⟩ := digits_of_digits found
        refine ⟨_, .present marked signed digits, ?_⟩
        rw [cs_eq, rest_eq]
        simp
      · cases h
    · rw [if_neg marked] at h
      cases h
      exact ⟨_, .absent, rfl⟩

/-- What is taken off a text as a numeral is one. -/
theorem writes_of_spelled {cs rest : List Char} {s : Spelled}
    (h : spelled cs = .ok (s, rest)) : ∃ t, Writes s t ∧ cs = t ++ rest := by
  have signed : cs = (if (minus cs).1 then ['-'] else []) ++ (minus cs).2 := by
    unfold minus
    split <;> rfl
  unfold spelled at h
  dsimp only at h
  split at h
  · cases h
  · rename_i first
    obtain ⟨digits, plain, first_eq⟩ := digits_of_whole first
    split at h
    · cases h
    · rename_i second
      obtain ⟨_, part, rfl⟩ := writes_of_fraction second
      split at h
      · cases h
      · rename_i third
        obtain ⟨_, power, rfl⟩ := writes_of_exponent third
        cases h
        rw [first_eq] at signed
        exact ⟨_, .mk digits plain part power, signed.trans (by simp only [List.append_assoc])⟩

/-! ### Numerals are read -/

variable {rest : List Char}

theorem digits_append {ds : List Char} (h : Digits ds)
    (apart : ∀ c ∈ rest.head?, c.isDigit = false) : digits (ds ++ rest) = .ok (ds, rest) := by
  obtain ⟨some, all⟩ := h
  have stop : rest.takeWhile Char.isDigit = [] ∧ rest.dropWhile Char.isDigit = rest := by
    cases rest with
    | nil => exact ⟨rfl, rfl⟩
    | cons c cs => simp [apart c rfl]
  have taken : (ds ++ rest).takeWhile Char.isDigit = ds := by
    rw [List.takeWhile_append_of_pos all, stop.1, List.append_nil]
  have left : (ds ++ rest).dropWhile Char.isDigit = rest := by
    rw [List.dropWhile_append_of_pos all, stop.2]
  rw [digits, taken, left, if_neg some]

theorem whole_append {ds : List Char} (h : Digits ds) (plain : ds.head? = some '0' → ds = ['0'])
    (apart : ∀ c ∈ rest.head?, c.isDigit = false) : whole (ds ++ rest) = .ok (ds, rest) := by
  unfold whole
  rw [digits_append h apart]
  split
  · rename_i found
    cases found
    cases plain rfl
  · rfl

theorem fraction_append {ds t : List Char} (h : WritesFraction ds t) (apart : Delimits rest) :
    fraction (t ++ rest) = .ok (ds, rest) := by
  cases h with
  | absent =>
    unfold fraction
    rw [List.nil_append]
    split
    · exact absurd rfl (apart _ rfl).2.1
    · rfl
  | present digits => exact digits_append digits fun c hc => (apart c hc).1

theorem sign_append {negative : Bool} {sign ds : List Char} (h : WritesSign negative sign)
    (digits : Digits ds) : Literal.sign (sign ++ (ds ++ rest)) = (negative, ds ++ rest) := by
  obtain ⟨some, all⟩ := digits
  cases h with
  | plus | minus => rfl
  | absent =>
    obtain ⟨d, ds, rfl⟩ := List.exists_cons_of_ne_nil some
    have digit := all d List.mem_cons_self
    unfold Literal.sign
    rw [List.nil_append, List.cons_append]
    split
    · rename_i eq
      cases eq
      exact absurd digit (by decide)
    · rename_i eq
      cases eq
      exact absurd digit (by decide)
    · rfl

theorem exponent_append {e : Option Int} {t : List Char} (h : WritesExponent e t)
    (apart : Delimits rest) : exponent (t ++ rest) = .ok (e, rest) := by
  cases h with
  | absent =>
    cases rest with
    | nil => rfl
    | cons c cs =>
      obtain ⟨-, -, lower, upper⟩ := apart c rfl
      rw [List.nil_append, exponent, if_neg (by simp [lower, upper])]
  | present marked signed digits =>
    rw [List.cons_append, List.cons_append, List.append_assoc, exponent, if_pos marked]
    dsimp only
    rw [sign_append signed digits, digits_append digits fun c hc => (apart c hc).1]

/-- What follows the digits before the point does not begin with a digit. -/
theorem not_digit_behind {ds fraction cs : List Char} {e : Option Int}
    (part : WritesFraction ds fraction) (power : WritesExponent e cs) (apart : Delimits rest) :
    ∀ c ∈ (fraction ++ (cs ++ rest)).head?, c.isDigit = false := by
  intro c hc
  cases part with
  | present =>
    cases hc
    decide
  | absent =>
    cases power with
    | absent => exact (apart c hc).1
    | present marked =>
      cases hc
      rcases marked with rfl | rfl <;> decide

theorem fraction_append_exponent {e : Option Int} {cs : List Char} (power : WritesExponent e cs)
    {ds fraction : List Char} (part : WritesFraction ds fraction) (apart : Delimits rest) :
    Numeral.fraction (fraction ++ (cs ++ rest)) = .ok (ds, cs ++ rest) := by
  cases power with
  | absent => exact fraction_append part apart
  | @present mark negative sign digits marked signed some =>
    cases part with
    | absent =>
      have : mark ≠ '.' := by
        rintro rfl
        exact absurd marked (by decide)
      simp [Numeral.fraction, this]
    | present part =>
      refine digits_append part fun c hc => ?_
      cases hc
      rcases marked with rfl | rfl <;> decide

/-- A numeral is taken off a text as it is written. -/
theorem spelled_append {s : Spelled} {t : List Char} (h : Writes s t) (apart : Delimits rest) :
    spelled (t ++ rest) = .ok (s, rest) := by
  obtain @⟨negative, whole, ds, fraction, cs, exponent, digits, plain, part, power⟩ := h
  have signed : minus ((if negative then ['-'] else []) ++ whole ++ fraction ++ cs ++ rest)
      = (negative, whole ++ (fraction ++ (cs ++ rest))) := by
    cases negative with
    | true => simp [minus]
    | false =>
      obtain ⟨d, whole, rfl⟩ := List.exists_cons_of_ne_nil digits.1
      have : d ≠ '-' := by
        rintro rfl
        exact absurd (digits.2 _ List.mem_cons_self) (by decide)
      simp [minus, this]
  rw [spelled, signed]
  dsimp only
  rw [whole_append digits plain (not_digit_behind part power apart)]
  dsimp only
  rw [fraction_append_exponent power part apart]
  dsimp only
  rw [exponent_append power apart]

/-- A text that is read to its end is a numeral with the number that is read. -/
theorem exists_writes_of_read {n : Numeral} {t : List Char} (h : read t = .ok (n, [])) :
    ∃ s, Writes s t ∧ ofSpelled? s = some n := by
  unfold read at h
  split at h
  · cases h
  · rename_i s behind written
    split at h
    · rename_i value
      cases h
      obtain ⟨t', writes, t_eq⟩ := writes_of_spelled written
      rw [List.append_nil] at t_eq
      exact ⟨s, t_eq ▸ writes, value⟩
    · cases h

/-- A number is read alike whatever follows it. -/
theorem read_append {n : Numeral} {t : List Char} (h : read t = .ok (n, []))
    (apart : Delimits rest) : read (t ++ rest) = .ok (n, rest) := by
  obtain ⟨s, writes, value⟩ := exists_writes_of_read h
  rw [read, spelled_append writes apart]
  dsimp only
  rw [value]

end CallToAction.Json.Numeral
