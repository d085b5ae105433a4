import CallToAction.Proofs.Json.Numeral
import CallToAction.Proofs.Number.Nearest
import CallToAction.Proofs.Number.Reading

/-!
# The grammar of number literals

A literal is a sign that may be left out and digits with at most one point and an exponent that may
be left out, or the name of infinity or of no number in any letter case.  There has to be a digit
before or behind the point, but none on either side in particular.  The reader of literals takes
exactly the texts of the grammar, and values each as the double nearest to it.

* `Spells`: the grammar;
* `ofText?_eq_some_iff`: the reader takes the texts of the grammar, and nothing else;
* `denotes_toFloat`: a literal is valued as the double nearest to it;
* `Number.read_eq_ok_iff`, `Number.read_eq_error_iff`: what comes of reading a text.
-/

namespace CallToAction.Literal

open Json.Numeral (WritesSign WritesExponent Digits)

/-! ### The grammar -/

/-- A point and the digits behind it, if there is a point. -/
inductive WritesFraction : List Char → List Char → Prop
  | absent : WritesFraction [] []
  | present {ds : List Char} (digits : ∀ c ∈ ds, c.isDigit = true) : WritesFraction ds ('.' :: ds)

/-- The name of no number, in lower case. -/
def nanName : List Char := ['n', 'a', 'n']

/-- The names of infinity, in lower case. -/
def infinityNames : List (List Char) := [['i', 'n', 'f'], ['i', 'n', 'f', 'i', 'n', 'i', 't', 'y']]

/-- A text spells a literal. -/
inductive Spells : List Char → Literal → Prop
  | nan {negative : Bool} {sign name : List Char} (signed : WritesSign negative sign)
    (named : name.map Char.toLower = nanName) : Spells (sign ++ name) nan
  | infinity {negative : Bool} {sign name : List Char} (signed : WritesSign negative sign)
    (named : name.map Char.toLower ∈ infinityNames) : Spells (sign ++ name) (infinity negative)
  | decimal {negative : Bool} {sign whole part fraction power : List Char} {exponent : Option Int}
    (signed : WritesSign negative sign) (digits : ∀ c ∈ whole, c.isDigit = true)
    (pointed : WritesFraction part fraction) (powered : WritesExponent exponent power)
    (some : whole ++ part ≠ []) :
    Spells (sign ++ (whole ++ (fraction ++ power)))
      (decimal negative (ofDigits (whole ++ part)) (exponent.getD 0 - part.length))

/-! ### Signs -/

theorem sign_append {negative : Bool} {s rest : List Char} (h : WritesSign negative s)
    (apart : ∀ c ∈ rest.head?, c ≠ '+' ∧ c ≠ '-') : sign (s ++ rest) = (negative, rest) := by
  cases h with
  | plus | minus => rfl
  | absent =>
    unfold sign
    split
    · rename_i eq
      rw [List.nil_append] at eq
      exact absurd rfl (apart '-' (by rw [eq]; rfl)).2
    · rename_i eq
      rw [List.nil_append] at eq
      exact absurd rfl (apart '+' (by rw [eq]; rfl)).1
    · rfl

/-! ### Exponents and fractions -/

theorem exponent?_eq_some_iff {cs : List Char} {e : Int} :
    exponent? cs = some e ↔ ∃ exponent, WritesExponent exponent cs ∧ e = exponent.getD 0 := by
  constructor
  · intro h
    unfold exponent? at h
    split at h
    · cases h
      exact ⟨none, .absent, rfl⟩
    · rename_i c cs
      obtain ⟨s, signed, cs_eq⟩ := Json.Numeral.writes_sign cs
      dsimp only at h
      by_cases form : (c = 'e' ∨ c = 'E') ∧ (sign cs).2 ≠ [] ∧ (sign cs).2.all Char.isDigit = true
      · obtain ⟨marked, nonempty, all⟩ := form
        rw [if_pos ⟨marked, nonempty, all⟩] at h
        have written := WritesExponent.present marked signed ⟨nonempty, List.all_eq_true.1 all⟩
        rw [List.cons_append, ← cs_eq] at written
        exact ⟨_, written, (Option.some.inj h).symm⟩
      · rw [if_neg form] at h
        cases h
  · rintro ⟨exponent, powered, rfl⟩
    cases powered with
    | absent => rfl
    | @present mark negative s ds marked signed digits =>
      have signs : sign (s ++ (ds ++ [])) = (negative, ds ++ []) :=
        Json.Numeral.sign_append signed digits
      rw [List.append_nil] at signs
      rw [List.cons_append, exponent?]
      simp only [signs]
      rw [if_pos ⟨marked, digits.1, List.all_eq_true.2 digits.2⟩]
      rfl

theorem writes_fraction (cs : List Char) :
    ∃ t, WritesFraction (fraction cs).1 t ∧ cs = t ++ (fraction cs).2 := by
  unfold fraction
  split
  · rename_i cs
    rw [List.span_eq_takeWhile_dropWhile]
    refine ⟨_, .present (List.all_eq_true.1 List.all_takeWhile), ?_⟩
    rw [List.cons_append, List.takeWhile_append_dropWhile]
  · exact ⟨_, .absent, rfl⟩

/-- An exponent does not begin like digits or like a fraction. -/
theorem head_power {exponent : Option Int} {power : List Char}
    (powered : WritesExponent exponent power) : ∀ c ∈ power.head?, c.isDigit = false ∧ c ≠ '.' := by
  intro c head
  cases powered with
  | absent => cases head
  | present marked =>
    cases head
    rcases marked with rfl | rfl <;> decide

theorem fraction_append {part fraction power : List Char} {exponent : Option Int}
    (pointed : WritesFraction part fraction) (powered : WritesExponent exponent power) :
    Literal.fraction (fraction ++ power) = (part, power) := by
  have apart := head_power powered
  cases pointed with
  | absent =>
    unfold Literal.fraction
    split
    · rename_i eq
      rw [List.nil_append] at eq
      exact absurd rfl (apart '.' (by rw [eq]; rfl)).2
    · rfl
  | present digits => exact span_append digits fun c head => (apart c head).1

/-- What follows the digits before the point does not begin with a digit. -/
theorem not_digit_behind {part fraction power : List Char} {exponent : Option Int}
    (pointed : WritesFraction part fraction) (powered : WritesExponent exponent power) :
    ∀ c ∈ (fraction ++ power).head?, c.isDigit = false := by
  intro c head
  cases pointed with
  | absent => exact (head_power powered c head).1
  | present =>
    cases head
    rfl

/-! ### Literals of digits -/

theorem decimal?_append (negative : Bool) {whole part fraction power : List Char}
    {exponent : Option Int} (digits : ∀ c ∈ whole, c.isDigit = true)
    (pointed : WritesFraction part fraction) (powered : WritesExponent exponent power)
    (some : whole ++ part ≠ []) :
    decimal? negative (whole ++ (fraction ++ power)) =
      .some (decimal negative (ofDigits (whole ++ part)) (exponent.getD 0 - part.length)) := by
  have taken := exponent?_eq_some_iff.2 ⟨exponent, powered, rfl⟩
  unfold decimal?
  rw [span_append digits (not_digit_behind pointed powered)]
  simp only [fraction_append pointed powered, taken, guard, if_pos some]
  rfl

theorem decimal?_eq_some_iff {negative : Bool} {cs : List Char} {l : Literal} :
    decimal? negative cs = some l ↔
      ∃ whole part fraction power exponent, (∀ c ∈ whole, c.isDigit = true) ∧
        WritesFraction part fraction ∧ WritesExponent exponent power ∧ whole ++ part ≠ [] ∧
        cs = whole ++ (fraction ++ power) ∧
        l = decimal negative (ofDigits (whole ++ part)) (exponent.getD 0 - part.length) := by
  constructor
  · intro h
    unfold decimal? at h
    rw [List.span_eq_takeWhile_dropWhile] at h
    obtain ⟨t, pointed, behind⟩ := writes_fraction (cs.dropWhile Char.isDigit)
    cases taken : exponent? (fraction (cs.dropWhile Char.isDigit)).2 with
    | none => simp [taken] at h
    | some e =>
      obtain ⟨exponent, powered, rfl⟩ := exponent?_eq_some_iff.1 taken
      by_cases some : cs.takeWhile Char.isDigit ++ (fraction (cs.dropWhile Char.isDigit)).1 ≠ []
      · simp only [taken, guard, if_pos some] at h
        cases h
        refine ⟨_, _, t, _, exponent, List.all_eq_true.1 List.all_takeWhile, pointed, powered,
          some, ?_, rfl⟩
        rw [← behind, List.takeWhile_append_dropWhile]
      · simp only [taken, guard, if_neg some] at h
        cases h
  · rintro ⟨whole, part, fraction, power, exponent, digits, pointed, powered, some, rfl, rfl⟩
    exact decimal?_append negative digits pointed powered some

/-! ### Names -/

theorem named?_eq_some_iff {negative : Bool} {cs : List Char} {l : Literal} :
    named? negative cs = some l ↔
      (cs.map Char.toLower = nanName ∧ l = nan) ∨
        (cs.map Char.toLower ∈ infinityNames ∧ l = infinity negative) := by
  have spelled (name : String) :
      String.ofList (cs.map Char.toLower) = name ↔ cs.map Char.toLower = name.toList := by
    rw [← String.toList_inj, String.toList_ofList]
  have infinite : (cs.map Char.toLower = "inf".toList ∨ cs.map Char.toLower = "infinity".toList) ↔
      cs.map Char.toLower ∈ infinityNames := by
    simp [infinityNames]
  have other : nanName ∉ infinityNames := by decide
  unfold named?
  simp only [spelled, infinite]
  change (if cs.map Char.toLower = nanName then _ else _) = _ ↔ _
  split_ifs with no inf
  · simp only [no, other, true_and, false_and, or_false, Option.some.injEq]
    exact eq_comm
  · simp only [no, inf, true_and, false_and, false_or, Option.some.injEq]
    exact eq_comm
  · simp only [no, inf, false_and, or_false]

/-- The first letter of a name is no sign, no digit, no point and no mark of an exponent. -/
theorem head_name {cs : List Char}
    (named : cs.map Char.toLower = nanName ∨ cs.map Char.toLower ∈ infinityNames) :
    ∃ c rest, cs = c :: rest ∧ (c ≠ '+' ∧ c ≠ '-') ∧ c.isDigit = false ∧ c ≠ '.' ∧
      ¬ (c = 'e' ∨ c = 'E') := by
  obtain ⟨c, rest, rfl, letter⟩ :
      ∃ c rest, cs = c :: rest ∧ (c.toLower = 'n' ∨ c.toLower = 'i') := by
    cases cs with
    | nil => rcases named with named | named <;> simp [nanName, infinityNames] at named
    | cons c rest =>
      refine ⟨c, rest, rfl, ?_⟩
      rcases named with named | named
      · exact .inl (List.cons.inj named).1
      · simp only [infinityNames, List.mem_cons, List.not_mem_nil, or_false] at named
        rcases named with named | named
        all_goals exact .inr (List.cons.inj named).1
  have ne {d : Char} (other : ¬ (d.toLower = 'n' ∨ d.toLower = 'i')) : c ≠ d := by
    rintro rfl
    exact other letter
  refine ⟨c, rest, rfl, ⟨ne (by decide), ne (by decide)⟩, ?_, ne (by decide), ?_⟩
  · by_contra digit
    rw [Bool.not_eq_false] at digit
    rw [toLower_of_isDigit digit] at letter
    rcases letter with rfl | rfl <;> cases digit
  · rintro (mark | mark)
    · exact ne (by decide) mark
    · exact ne (by decide) mark

theorem head_name_sign {cs : List Char}
    (named : cs.map Char.toLower = nanName ∨ cs.map Char.toLower ∈ infinityNames) :
    ∀ c ∈ cs.head?, c ≠ '+' ∧ c ≠ '-' := by
  obtain ⟨c, rest, rfl, sign, -⟩ := head_name named
  intro d head
  cases head
  exact sign

/-- A literal of digits begins with a digit or with a point. -/
theorem head_decimal {whole part fraction : List Char} (power : List Char)
    (digits : ∀ c ∈ whole, c.isDigit = true) (pointed : WritesFraction part fraction)
    (some : whole ++ part ≠ []) :
    ∀ c ∈ (whole ++ (fraction ++ power)).head?, c ≠ '+' ∧ c ≠ '-' := by
  intro c head
  cases whole with
  | cons d whole =>
    cases head
    have digit := digits c List.mem_cons_self
    exact ⟨ne_of_isDigit digit rfl, ne_of_isDigit digit rfl⟩
  | nil =>
    cases pointed with
    | absent => exact absurd rfl some
    | present =>
      cases head
      exact ⟨by decide, by decide⟩

theorem decimal?_of_named {cs : List Char} (negative : Bool)
    (named : cs.map Char.toLower = nanName ∨ cs.map Char.toLower ∈ infinityNames) :
    decimal? negative cs = none := by
  obtain ⟨c, rest, rfl, -, digit, point, mark⟩ := head_name named
  refine Option.eq_none_iff_forall_not_mem.2 fun l taken => ?_
  obtain ⟨whole, part, fraction, power, exponent, digits, pointed, powered, some, eq, -⟩ :=
    decimal?_eq_some_iff.1 taken
  cases whole with
  | cons d whole =>
    cases eq
    exact absurd (digits c List.mem_cons_self) (by rw [digit]; exact Bool.false_ne_true)
  | nil =>
    cases pointed with
    | present =>
      cases eq
      exact point rfl
    | absent => exact some rfl

/-! ### Literals -/

/-- Behind a sign a name is not taken for digits. -/
theorem orElse_of_named {negative : Bool} {t name : List Char} {l : Literal}
    (signed : WritesSign negative t)
    (named : name.map Char.toLower = nanName ∨ name.map Char.toLower ∈ infinityNames)
    (taken : named? negative name = some l) :
    (decimal? (sign (t ++ name)).1 (sign (t ++ name)).2 <|>
      named? (sign (t ++ name)).1 (sign (t ++ name)).2) = some l := by
  rw [sign_append signed (head_name_sign named), decimal?_of_named negative named, taken]
  rfl

/-- A text is read as a literal if it spells it. -/
theorem ofText?_eq_some_iff {s : String} {l : Literal} :
    ofText? s = some l ↔ Spells s.toList l := by
  unfold ofText?
  generalize s.toList = text
  constructor
  · intro h
    obtain ⟨t, signed, text_eq⟩ := Json.Numeral.writes_sign text
    generalize sign text = parts at h signed text_eq
    obtain ⟨negative, cs⟩ := parts
    dsimp only at h signed text_eq
    rw [text_eq]
    cases taken : decimal? negative cs with
    | some l' =>
      rw [taken] at h
      cases h
      obtain ⟨whole, part, fraction, power, exponent, digits, pointed, powered, some, rfl, rfl⟩ :=
        decimal?_eq_some_iff.1 taken
      exact .decimal signed digits pointed powered some
    | none =>
      rw [taken] at h
      rcases named?_eq_some_iff.1 h with ⟨named, rfl⟩ | ⟨named, rfl⟩
      · exact .nan signed named
      · exact .infinity signed named
  · intro spells
    cases spells with
    | nan signed named =>
      exact orElse_of_named signed (.inl named) (named?_eq_some_iff.2 (.inl ⟨named, rfl⟩))
    | infinity signed named =>
      exact orElse_of_named signed (.inr named) (named?_eq_some_iff.2 (.inr ⟨named, rfl⟩))
    | @decimal negative t whole part fraction power exponent signed digits pointed powered some =>
      have head := head_decimal power digits pointed some
      rw [sign_append signed head]
      simp only [decimal?_append negative digits pointed powered some]
      rfl

/-- What a literal stands for: the double nearest to its value, if it has one. -/
def Denotes : Literal → Binary64 → Prop
  | nan, b => b = .nan
  | infinity negative, b => b = .infinity negative
  | decimal negative digits exponent, b => b.Nearest negative (⟨digits, exponent⟩ : Decimal).value

theorem denotes_toFloat (l : Literal) : l.Denotes (Binary64.ofFloat l.toFloat) := by
  cases l with
  | nan => exact (by decide : Binary64.ofFloat (0.0 / 0.0) = .nan)
  | infinity negative => exact Binary64.ofFloat_infinite negative
  | decimal negative digits exponent => exact Binary64.nearest_ofDecimal negative digits exponent

end CallToAction.Literal

namespace CallToAction.Number

open Literal (Spells)

/-! ### Reading -/

theorem read_eq_ok_iff {s : String} {v : Float} :
    read s = .ok v ↔ ∃ l, Spells s.toList l ∧ v = l.toFloat := by
  simp only [← Literal.ofText?_eq_some_iff]
  unfold read
  cases Literal.ofText? s with
  | none => simp
  | some l => simp [eq_comm]

/-- A text is refused if it spells no literal, and it matters whether it is empty. -/
theorem read_eq_error_iff {s : String} {e : ReadError} :
    read s = .error e ↔
      (∀ l, ¬ Spells s.toList l) ∧ (s = "" ∧ e = .empty ∨ s ≠ "" ∧ e = .invalid) := by
  simp only [← Literal.ofText?_eq_some_iff]
  unfold read
  cases Literal.ofText? s with
  | some l => simp
  | none => by_cases empty : s = "" <;> simp [empty, @eq_comm _ e]

end CallToAction.Number
