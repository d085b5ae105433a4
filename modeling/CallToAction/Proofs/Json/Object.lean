import CallToAction.Proofs.Json.Numeral
import CallToAction.Proofs.Json.Quoted

/-!
# The grammar of objects

The text of an object with its members, in any layout, and what is found in it from left to right.
Of a value only the first lexeme is looked at, unless it is a null or a number.

* `Value`, `Members`, `ObjectText`: the grammar;
* `scan_gap`, `scan_cons`: scanning a text by its lexemes;
* `Value.scan`, `MemberText.scan`: the lexemes of a value and of a member.
-/

namespace CallToAction.Json

open Lexeme

/-! ### The grammar -/

/-- Blanks, and nothing else. -/
def Gap (cs : List Char) : Prop := ∀ c ∈ cs, isGap c = true

/-- A member as it is written: its name between the quotes, and its value. -/
structure Member where
  name : List Char
  value : List Char

mutual

/-- The text of a value. -/
inductive Value : List Char → Prop
  | null : Value ['n', 'u', 'l', 'l']
  | yes : Value ['t', 'r', 'u', 'e']
  | no : Value ['f', 'a', 'l', 's', 'e']
  | number {s : Numeral.Spelled} {cs : List Char} (numeral : Numeral.Writes s cs) : Value cs
  | text {raw : List Char} (body : Body raw) : Value ('"' :: raw ++ ['"'])
  | emptyArray {gap : List Char} (blank : Gap gap) : Value ('[' :: gap ++ [']'])
  | array {cs : List Char} (items : Items cs) : Value ('[' :: cs ++ [']'])
  | emptyObject {gap : List Char} (blank : Gap gap) : Value ('\x7b' :: gap ++ ['\x7d'])
  | object {members : List Member} {cs : List Char} (inner : Members members cs) :
    Value ('\x7b' :: cs ++ ['\x7d'])

/-- The items of an array, at least one. -/
inductive Items : List Char → Prop
  | last {before value after : List Char} (ahead : Gap before) (item : Value value)
    (behind : Gap after) : Items (before ++ value ++ after)
  | next {before value after cs : List Char} (ahead : Gap before) (item : Value value)
    (behind : Gap after) (rest : Items cs) : Items (before ++ value ++ after ++ ',' :: cs)

/-- A member with the blanks around it and in it. -/
inductive MemberText : Member → List Char → Prop
  | mk {m : Member} {before named opening after : List Char} (ahead : Gap before)
    (name : Body m.name) (middle : Gap named) (colon : Gap opening) (value : Value m.value)
    (behind : Gap after) :
    MemberText m
      (before ++ '"' :: (m.name ++ '"' :: (named ++ ':' :: (opening ++ (m.value ++ after)))))

/-- The members of an object, at least one. -/
inductive Members : List Member → List Char → Prop
  | last {m : Member} {cs : List Char} (only : MemberText m cs) : Members [m] cs
  | next {m : Member} {ms : List Member} {cs rest : List Char} (first : MemberText m cs)
    (others : Members ms rest) : Members (m :: ms) (cs ++ ',' :: rest)

end

/-- The text of an object with its members. -/
inductive ObjectText : List Member → List Char → Prop
  | empty {before inside after : List Char} (ahead : Gap before) (blank : Gap inside)
    (behind : Gap after) : ObjectText [] (before ++ '\x7b' :: (inside ++ '\x7d' :: after))
  | members {ms : List Member} {before cs after : List Char} (ahead : Gap before)
    (inner : Members ms cs) (behind : Gap after) :
    ObjectText ms (before ++ '\x7b' :: (cs ++ '\x7d' :: after))

/-! ### Scanning -/

theorem scan_eq (cs : List Char) :
    scan cs = match cs.dropWhile isGap with
      | [] => []
      | c :: rest => (first c rest).1 :: scan (first c rest).2 := by
  rw [scan]
  split
  · rename_i blank
    rw [blank]
  · rename_i some
    simp only [some]

theorem scan_gap {gap : List Char} (blank : Gap gap) (cs : List Char) :
    scan (gap ++ cs) = scan cs := by
  rw [scan_eq, List.dropWhile_append_of_pos blank, ← scan_eq]

theorem scan_blank {gap : List Char} (blank : Gap gap) : scan gap = [] := by
  have := scan_gap blank []
  rw [List.append_nil] at this
  rw [this, scan_eq]
  rfl

theorem scan_cons {c : Char} (visible : isGap c = false) (cs : List Char) :
    scan (c :: cs) = (first c cs).1 :: scan (first c cs).2 := by
  rw [scan_eq, List.dropWhile_cons_of_neg (by simp [visible])]

theorem first_of_digit {c : Char} (cs : List Char) (h : c = '-' ∨ c.isDigit = true) :
    first c cs = close .number .broken (Numeral.read (c :: cs)) ∧ isGap c = false := by
  have ne (d : Char) (other : ¬ (d = '-' ∨ d.isDigit = true)) : c ≠ d := fun e => other (e ▸ h)
  refine ⟨?_, ?_⟩
  · unfold first
    split <;> first
      | exact absurd rfl (ne _ (by decide))
      | exact if_pos h
  · simp [isGap, ne ' ' (by decide), ne '\n' (by decide), ne '\t' (by decide), ne '\r' (by decide)]

theorem scan_quote (cs : List Char) :
    scan ('"' :: cs) =
      (close (fun ds => .text (.ofList ds)) .brokenText (quoted cs)).1 ::
        scan (close (fun ds => .text (.ofList ds)) .brokenText (quoted cs)).2 :=
  scan_cons (by decide) cs

variable {rest : List Char}

theorem scan_text {raw s : List Char} (h : Spells raw s) :
    scan ('"' :: (raw ++ '"' :: rest)) = .text (.ofList s) :: scan rest := by
  rw [scan_quote, h.quoted]
  rfl

theorem scan_colon : scan (':' :: rest) = .colon :: scan rest := scan_cons (by decide) _

theorem scan_comma : scan (',' :: rest) = .comma :: scan rest := scan_cons (by decide) _

theorem scan_braceOpen : scan ('\x7b' :: rest) = .braceOpen :: scan rest :=
  scan_cons (by decide) _

theorem scan_braceClose : scan ('\x7d' :: rest) = .braceClose :: scan rest :=
  scan_cons (by decide) _

theorem scan_null : scan ('n' :: 'u' :: 'l' :: 'l' :: rest) = .null :: scan rest :=
  scan_cons (by decide) _

/-- A numeral begins with a minus sign or a digit. -/
theorem Numeral.Writes.exists_cons {s : Numeral.Spelled} {cs : List Char}
    (h : Numeral.Writes s cs) : ∃ c tail, cs = c :: tail ∧ (c = '-' ∨ c.isDigit = true) := by
  obtain @⟨negative, whole, ds, fraction, cs, exponent, digits, -, -, -⟩ := h
  cases negative with
  | true => exact ⟨_, _, rfl, .inl rfl⟩
  | false =>
    obtain ⟨d, whole, rfl⟩ := List.exists_cons_of_ne_nil digits.1
    exact ⟨_, _, rfl, .inr (digits.2 _ List.mem_cons_self)⟩

theorem scan_numeral {s : Numeral.Spelled} {cs : List Char} (h : Numeral.Writes s cs) :
    scan (cs ++ rest) =
      (close .number .broken (Numeral.read (cs ++ rest))).1 ::
        scan (close .number .broken (Numeral.read (cs ++ rest))).2 := by
  obtain ⟨c, tail, rfl, begins⟩ := h.exists_cons
  obtain ⟨eq, visible⟩ := first_of_digit (tail ++ rest) begins
  rw [List.cons_append, scan_cons visible, eq]

theorem scan_number {n : Numeral} {cs : List Char} (h : Numeral.read cs = .ok (n, []))
    (apart : Numeral.Delimits rest) : scan (cs ++ rest) = .number n :: scan rest := by
  obtain ⟨s, writes, -⟩ := Numeral.exists_writes_of_read h
  rw [scan_numeral writes, Numeral.read_append h apart]
  rfl

/-- The lexemes of a value begin with a null, with its number, or with something else. -/
theorem Value.scan {cs : List Char} (h : Value cs) (apart : Numeral.Delimits rest) :
    Lexeme.scan (cs ++ rest) = .null :: Lexeme.scan rest ∨
      (∃ n, Lexeme.scan (cs ++ rest) = .number n :: Lexeme.scan rest) ∨
      ∃ lexeme tail, Lexeme.scan (cs ++ rest) = lexeme :: tail ∧ lexeme ≠ .null ∧
        ∀ n, lexeme ≠ .number n := by
  cases h with
  | null => exact .inl scan_null
  | yes => exact .inr (.inr ⟨.bool true, _, scan_cons (by decide) _, by simp⟩)
  | no => exact .inr (.inr ⟨.bool false, _, scan_cons (by decide) _, by simp⟩)
  | number numeral =>
    rw [scan_numeral numeral, Numeral.read, Numeral.spelled_append numeral apart]
    dsimp only
    split
    · exact .inr (.inl ⟨_, rfl⟩)
    · exact .inr (.inr ⟨_, _, rfl, by simp [close]⟩)
  | text body =>
    refine .inr (.inr ⟨_, _, scan_quote _, ?_⟩)
    unfold close
    split <;> simp
  | emptyArray | array => exact .inr (.inr ⟨.bracketOpen, _, scan_cons (by decide) _, by simp⟩)
  | emptyObject | object => exact .inr (.inr ⟨.braceOpen, _, scan_cons (by decide) _, by simp⟩)

theorem delimits_gap {gap : List Char} (blank : Gap gap) (apart : Numeral.Delimits rest) :
    Numeral.Delimits (gap ++ rest) := by
  cases gap with
  | nil => exact apart
  | cons c gap =>
    intro d hd
    cases hd
    have := blank c List.mem_cons_self
    simp only [isGap, Bool.or_eq_true, beq_iff_eq] at this
    rcases this with ((rfl | rfl) | rfl) | rfl <;> decide

theorem delimits_comma : Numeral.Delimits (',' :: rest) := by
  rintro c ⟨⟩
  decide

theorem delimits_braceClose : Numeral.Delimits ('\x7d' :: rest) := by
  rintro c ⟨⟩
  decide

/-- The lexemes of a member begin with its name, if that is spelled. -/
theorem MemberText.scan {m : Member} {cs : List Char} (h : MemberText m cs) (rest : List Char) :
    (∃ f, Lexeme.scan (cs ++ rest) = [.brokenText f]) ∨
      ∃ s after, Spells m.name s ∧ Value m.value ∧ Gap after ∧
        Lexeme.scan (cs ++ rest) =
          .text (.ofList s) :: .colon :: Lexeme.scan (m.value ++ (after ++ rest)) := by
  obtain @⟨_, before, named, opening, after, ahead, name, middle, colon, value, behind⟩ := h
  simp only [List.append_assoc, List.cons_append]
  rw [scan_gap ahead]
  rcases name.settled with ⟨s, spells⟩ | refused
  · refine .inr ⟨s, after, spells, value, behind, ?_⟩
    rw [scan_text spells, scan_gap middle, scan_colon, scan_gap colon]
  · obtain ⟨f, failed⟩ := refused (named ++ ':' :: (opening ++ (m.value ++ (after ++ rest))))
    refine .inl ⟨f, ?_⟩
    rw [scan_quote, failed]
    exact congrArg _ (scan_blank fun c hc => nomatch hc)

end CallToAction.Json
