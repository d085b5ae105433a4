import CallToAction.Json.Basic
import CallToAction.Json.Lexeme

/-!
# The grammar of quoted texts

Between its quotes a text is written in characters, in escapes by a letter, and in code units of
four hexadecimal digits.  Two code units may be the halves of one character; a half that stands
alone spells nothing, and then the reader refuses the text.

* `Body`: what may stand between quotes;
* `Spells`: the text that it spells;
* `Spells.quoted`, `Body.settled`: the reader finds the spelled text, or none;
* `spells_escaped`: a text is spelled by its characters, escaped as they are written.
-/

namespace CallToAction.Json

open Lexeme

/-! ### The grammar -/

/-- What may stand between quotes. -/
inductive Body : List Char → Prop
  | nil : Body []
  | plain {c : Char} {cs : List Char} (visible : ¬ c < ' ') (quote : c ≠ '"') (slash : c ≠ '\\')
    (rest : Body cs) : Body (c :: cs)
  | letter {c d : Char} {cs : List Char} (known : escaped? c = some d) (rest : Body cs) :
    Body ('\\' :: c :: cs)
  | unit {a b c d : Char} {n : Nat} {cs : List Char} (digits : Text.hex? [a, b, c, d] = some n)
    (rest : Body cs) : Body ('\\' :: 'u' :: a :: b :: c :: d :: cs)

/-- What stands between quotes spells a text. -/
inductive Spells : List Char → List Char → Prop
  | nil : Spells [] []
  | plain {c : Char} {cs s : List Char} (visible : ¬ c < ' ') (quote : c ≠ '"') (slash : c ≠ '\\')
    (rest : Spells cs s) : Spells (c :: cs) (c :: s)
  | letter {c d : Char} {cs s : List Char} (known : escaped? c = some d) (rest : Spells cs s) :
    Spells ('\\' :: c :: cs) (d :: s)
  | unit {a b c d : Char} {n : Nat} {cs s : List Char} (digits : Text.hex? [a, b, c, d] = some n)
    (whole : n < 0xd800 ∨ 0xdfff < n) (rest : Spells cs s) :
    Spells ('\\' :: 'u' :: a :: b :: c :: d :: cs) (.ofNat n :: s)
  /-- The halves of a character beyond U+FFFF. -/
  | pair {a b c d a' b' c' d' : Char} {high low : Nat} {cs s : List Char}
    (first : Text.hex? [a, b, c, d] = some high) (leads : 0xd800 ≤ high ∧ high < 0xdc00)
    (second : Text.hex? [a', b', c', d'] = some low) (follows : 0xdc00 ≤ low ∧ low ≤ 0xdfff)
    (rest : Spells cs s) :
    Spells ('\\' :: 'u' :: a :: b :: c :: d :: '\\' :: 'u' :: a' :: b' :: c' :: d' :: cs)
      (.ofNat (0x10000 + (high - 0xd800) * 0x400 + (low - 0xdc00)) :: s)

/-! ### Reading -/

/-- A character before the rest of a text. -/
def consText (c : Char) (read : List Char × List Char) : List Char × List Char :=
  (c :: read.1, read.2)

variable {c d : Char} {cs rest : List Char}

theorem quoted_plain (visible : ¬ c < ' ') (quote : c ≠ '"') (slash : c ≠ '\\') :
    quoted (c :: cs) = (quoted cs).map (consText c) := by
  rw [quoted, if_neg quote, if_neg slash, if_neg visible]
  rfl

theorem quoted_escape (h : escape cs = .ok (d, rest)) :
    quoted ('\\' :: cs) = (quoted rest).map (consText d) := by
  rw [quoted, if_neg (by decide), if_pos rfl]
  split
  · rename_i failed
    cases h.symm.trans failed
  · rename_i found
    cases h.symm.trans found
    rfl

theorem quoted_escape_error {f : Fault} (h : escape cs = .error f) :
    quoted ('\\' :: cs) = .error f := by
  rw [quoted, if_neg (by decide), if_pos rfl]
  split
  · rename_i failed
    cases h.symm.trans failed
    rfl
  · rename_i found
    cases h.symm.trans found

theorem escape_letter (known : escaped? c = some d) : escape (c :: cs) = .ok (d, cs) := by
  have : c ≠ 'u' := by
    rintro rfl
    cases known
  rw [escape, if_neg this, known]

theorem codeUnit_digits {a b c d : Char} {n : Nat} (digits : Text.hex? [a, b, c, d] = some n) :
    codeUnit (a :: b :: c :: d :: cs) = .ok (n, cs) := by
  rw [codeUnit, digits]

theorem escape_unit {a b c d : Char} {n : Nat} (digits : Text.hex? [a, b, c, d] = some n)
    (whole : n < 0xd800 ∨ 0xdfff < n) :
    escape ('u' :: a :: b :: c :: d :: cs) = .ok (.ofNat n, cs) := by
  rw [escape, if_pos rfl, spelledChar, codeUnit_digits digits]
  exact if_pos whole

/-- The first half of a character leaves it to the rest of the text what comes of it. -/
theorem escape_half {a b c d : Char} {n : Nat} (digits : Text.hex? [a, b, c, d] = some n)
    (leads : 0xd800 ≤ n ∧ n < 0xdc00) :
    escape ('u' :: a :: b :: c :: d :: cs) = lowHalf n cs := by
  rw [escape, if_pos rfl, spelledChar, codeUnit_digits digits]
  dsimp only
  rw [if_neg (by omega), if_pos leads.2]

theorem escape_stray {a b c d : Char} {n : Nat} (digits : Text.hex? [a, b, c, d] = some n)
    (follows : 0xdc00 ≤ n ∧ n ≤ 0xdfff) :
    escape ('u' :: a :: b :: c :: d :: cs) = .error .malformed := by
  rw [escape, if_pos rfl, spelledChar, codeUnit_digits digits]
  dsimp only
  rw [if_neg (by omega), if_neg (by omega)]

/-- The second half of a character is known by its value. -/
theorem escape_halves {a b c d a' b' c' d' : Char} {high low : Nat}
    (first : Text.hex? [a, b, c, d] = some high) (leads : 0xd800 ≤ high ∧ high < 0xdc00)
    (second : Text.hex? [a', b', c', d'] = some low) :
    escape ('u' :: a :: b :: c :: d :: '\\' :: 'u' :: a' :: b' :: c' :: d' :: cs) =
      if 0xdc00 ≤ low ∧ low ≤ 0xdfff then
        .ok (.ofNat (0x10000 + (high - 0xd800) * 0x400 + (low - 0xdc00)), cs)
      else .error .malformed := by
  have taken : letters ['\\', 'u'] ('\\' :: 'u' :: a' :: b' :: c' :: d' :: cs)
      = .ok (a' :: b' :: c' :: d' :: cs) := rfl
  rw [escape_half first leads, lowHalf, taken]
  dsimp only
  rw [codeUnit_digits second]

/-- The rest of a character is not looked for elsewhere. -/
theorem lowHalf_of_ne {high : Nat} (h : ∀ rest, cs ≠ '\\' :: 'u' :: rest) :
    ∃ f, lowHalf high cs = .error f := by
  unfold lowHalf
  split
  · exact ⟨_, rfl⟩
  · rename_i found
    match cs with
    | [] => cases found
    | [c] =>
      simp only [letters] at found
      split at found <;> cases found
    | c :: d :: cs =>
      simp only [letters] at found
      split at found
      · rename_i slash
        split at found
        · rename_i u
          subst slash u
          exact absurd rfl (h cs)
        · cases found
      · cases found

/-- A spelled text is read up to its closing quote. -/
theorem Spells.quoted {raw s : List Char} (h : Spells raw s) (rest : List Char) :
    Lexeme.quoted (raw ++ '"' :: rest) = .ok (s, rest) := by
  induction h with
  | nil =>
    rw [List.nil_append, Lexeme.quoted]
    exact if_pos rfl
  | plain visible quote slash _ ih =>
    rw [List.cons_append, quoted_plain visible quote slash, ih]
    rfl
  | letter known _ ih =>
    rw [List.cons_append, List.cons_append, quoted_escape (escape_letter known), ih]
    rfl
  | unit digits whole _ ih =>
    simp only [List.cons_append]
    rw [quoted_escape (escape_unit digits whole), ih]
    rfl
  | pair first leads second follows _ ih =>
    simp only [List.cons_append]
    rw [quoted_escape ((escape_halves first leads second).trans (if_pos follows)), ih]
    rfl

/-- Nothing is spelled in two ways. -/
theorem Spells.unique {raw s t : List Char} (h : Spells raw s) (h' : Spells raw t) : s = t := by
  have := (h.quoted []).symm.trans (h'.quoted [])
  cases this
  rfl

/-- What stands between quotes spells a text, or it is refused. -/
def Settled (raw : List Char) : Prop :=
  (∃ s, Spells raw s) ∨ ∀ rest, ∃ f, Lexeme.quoted (raw ++ '"' :: rest) = .error f

/-- One more character in front changes nothing about that. -/
theorem Settled.cons {raw longer : List Char} (h : Settled raw) (c : Char)
    (spells : ∀ s, Spells raw s → Spells longer (c :: s))
    (reads : ∀ rest, Lexeme.quoted (longer ++ '"' :: rest)
      = (Lexeme.quoted (raw ++ '"' :: rest)).map (consText c)) : Settled longer := by
  rcases h with ⟨s, spelled⟩ | refused
  · exact .inl ⟨c :: s, spells s spelled⟩
  · refine .inr fun rest => ?_
    obtain ⟨f, failed⟩ := refused rest
    exact ⟨f, by rw [reads, failed]; rfl⟩

/-- Before other things than a code unit, the first half of a character is refused. -/
theorem settled_of_half {a b c d : Char} {n : Nat} (digits : Text.hex? [a, b, c, d] = some n)
    (leads : 0xd800 ≤ n ∧ n < 0xdc00) (alone : ∀ rest t, cs ++ '"' :: rest ≠ '\\' :: 'u' :: t) :
    Settled ('\\' :: 'u' :: a :: b :: c :: d :: cs) := by
  refine .inr fun rest => ?_
  obtain ⟨f, failed⟩ := lowHalf_of_ne (alone rest)
  simp only [List.cons_append]
  exact ⟨f, quoted_escape_error ((escape_half digits leads).trans failed)⟩

/-- Before a code unit, the first half of a character spells it or is refused. -/
theorem settled_of_halves {a b c d a' b' c' d' : Char} {high low : Nat} (h : Settled cs)
    (first : Text.hex? [a, b, c, d] = some high) (leads : 0xd800 ≤ high ∧ high < 0xdc00)
    (second : Text.hex? [a', b', c', d'] = some low) :
    Settled ('\\' :: 'u' :: a :: b :: c :: d :: '\\' :: 'u' :: a' :: b' :: c' :: d' :: cs) := by
  by_cases follows : 0xdc00 ≤ low ∧ low ≤ 0xdfff
  · refine h.cons _ (fun s => .pair first leads second follows) fun rest => ?_
    exact quoted_escape ((escape_halves first leads second).trans (if_pos follows))
  · refine .inr fun rest => ?_
    exact ⟨_, quoted_escape_error ((escape_halves first leads second).trans (if_neg follows))⟩

theorem Body.settled {raw : List Char} (h : Body raw) : Settled raw := by
  -- the halves of a character are two code units, so the induction is on the length
  induction n : raw.length using Nat.strongRecOn generalizing raw with
  | ind n ih =>
  subst n
  cases h with
  | nil => exact .inl ⟨_, .nil⟩
  | @plain c cs visible quote slash tail =>
    have later := ih _ (by simp only [List.length_cons]; omega) tail rfl
    exact later.cons c (fun s => .plain visible quote slash) fun rest =>
      quoted_plain visible quote slash
  | @letter c d cs known tail =>
    have later := ih _ (by simp only [List.length_cons]; omega) tail rfl
    exact later.cons d (fun s => .letter known) fun rest => quoted_escape (escape_letter known)
  | @unit a b c d n cs digits tail =>
    by_cases whole : n < 0xd800 ∨ 0xdfff < n
    · have later := ih _ (by simp only [List.length_cons]; omega) tail rfl
      exact later.cons _ (fun s => .unit digits whole) fun rest =>
        quoted_escape (escape_unit digits whole)
    by_cases leads : n < 0xdc00
    · have half : 0xd800 ≤ n ∧ n < 0xdc00 := by omega
      cases tail with
      | nil => exact settled_of_half digits half fun rest t => by simp
      | plain _ _ slash _ => exact settled_of_half digits half fun rest t => by simp [slash]
      | letter known _ =>
        refine settled_of_half digits half fun rest t => ?_
        rintro ⟨⟩
        cases known
      | unit second tail =>
        have later := ih _ (by simp only [List.length_cons]; omega) tail rfl
        exact settled_of_halves later digits half second
    · exact .inr fun rest => ⟨_, quoted_escape_error (escape_stray digits (by omega))⟩

/-! ### Writing -/

theorem Spells.body {raw s : List Char} (h : Spells raw s) : Body raw := by
  induction h with
  | nil => exact .nil
  | plain visible quote slash _ ih => exact .plain visible quote slash ih
  | letter known _ ih => exact .letter known ih
  | unit digits _ _ ih => exact .unit digits ih
  | pair first _ second _ _ ih => exact .unit first (.unit second ih)

/-- A control character is found by its two digits. -/
theorem hex?_hexDigits {c : Char} (h : c < ' ') :
    Text.hex? (['0', '0'] ++ hexDigits c) = some c.toNat := by
  have each : ∀ n < 32, Text.hex? ['0', '0', Nat.digitChar (n / 16), Nat.digitChar (n % 16)]
      = some n := by decide
  exact each c.toNat h

/-- A text is spelled by its characters, escaped as they are written. -/
theorem spells_escaped (s : List Char) : Spells (s.flatMap escapeChar) s := by
  induction s with
  | nil => exact .nil
  | cons c s ih =>
    rw [List.flatMap_cons]
    by_cases known : ∃ letter, escapeChar c = ['\\', letter] ∧ escaped? letter = some c
    · obtain ⟨letter, escaped, known⟩ := known
      rw [escaped]
      exact .letter known ih
    · have other (d letter : Char) (escaped : escapeChar d = ['\\', letter])
          (back : escaped? letter = some d) : c ≠ d := by
        rintro rfl
        exact known ⟨letter, escaped, back⟩
      have quote := other '"' '"' rfl rfl
      have slash := other '\\' '\\' rfl rfl
      unfold escapeChar
      rw [if_neg quote, if_neg slash, if_neg (other '\x08' 'b' rfl rfl),
        if_neg (other '\x0c' 'f' rfl rfl), if_neg (other '\n' 'n' rfl rfl),
        if_neg (other '\r' 'r' rfl rfl), if_neg (other '\t' 't' rfl rfl)]
      split
      · rename_i control
        have := Spells.unit (hex?_hexDigits control) (.inl (Nat.lt_trans control (by decide))) ih
        rwa [Char.ofNat_toNat] at this
      · rename_i visible
        exact .plain visible quote slash ih

end CallToAction.Json
