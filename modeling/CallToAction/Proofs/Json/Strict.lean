import CallToAction.Proofs.Json.Reader

/-!
# What the reader of documents takes

The reader takes the texts of the grammar, and no others: a quoted text is spelled, a number is a
numeral, and there is a comma between two items and none behind the last one.  So whatever is
written of a value is a document of the grammar.

* `exists_spells_of_quoted`: a quoted text that is taken is spelled;
* `Reader.Takes`: a reader takes nothing but texts of one kind;
* `Reader.takes_value`: a value that is taken is a value of the grammar;
* `isText_of_ofText?`, `isText_write`: documents that are read, and documents that are written.
-/

namespace CallToAction.Json

open Lexeme

/-! ### Texts -/

theorem eq_append_of_letters {ending cs rest : List Char} (h : letters ending cs = .ok rest) :
    cs = ending ++ rest := by
  induction ending generalizing cs with
  | nil =>
    cases h
    rfl
  | cons a as ih =>
    cases cs with
    | nil => cases h
    | cons c cs =>
      rw [letters] at h
      split at h
      · rename_i same
        rw [← same, List.cons_append, ← ih h]
      · cases h

theorem exists_hex_of_codeUnit {cs rest : List Char} {n : ℕ} (h : codeUnit cs = .ok (n, rest)) :
    ∃ a b c d, cs = a :: b :: c :: d :: rest ∧ Text.hex? [a, b, c, d] = some n := by
  unfold codeUnit at h
  split at h
  · split at h
    · rename_i digits
      cases h
      exact ⟨_, _, _, _, rfl, digits⟩
    · cases h
  · cases h

/-- The halves of a character are followed by one another. -/
theorem exists_hex_of_lowHalf {cs rest : List Char} {high : ℕ} {d : Char}
    (h : lowHalf high cs = .ok (d, rest)) :
    ∃ a b c e low, cs = '\\' :: 'u' :: a :: b :: c :: e :: rest ∧
      Text.hex? [a, b, c, e] = some low ∧ (0xdc00 ≤ low ∧ low ≤ 0xdfff) ∧
      d = .ofNat (0x10000 + (high - 0xd800) * 0x400 + (low - 0xdc00)) := by
  unfold lowHalf at h
  split at h
  · cases h
  · rename_i marked
    split at h
    · cases h
    · rename_i unit
      split at h
      · rename_i follows
        obtain ⟨a, b, c, e, rfl, digits⟩ := exists_hex_of_codeUnit unit
        simp only [Except.ok.injEq, Prod.mk.injEq] at h
        obtain ⟨rfl, rfl⟩ := h
        exact ⟨a, b, c, e, _, eq_append_of_letters marked, digits, follows, rfl⟩
      · cases h

/-- An escape that is taken goes before a text and spells one more character of it. -/
theorem exists_spells_of_escape {cs rest : List Char} {d : Char} (h : escape cs = .ok (d, rest)) :
    ∃ spelling, cs = spelling ++ rest ∧
      ∀ raw s, Spells raw s → Spells ('\\' :: (spelling ++ raw)) (d :: s) := by
  unfold escape at h
  split at h
  · cases h
  · rename_i c cs
    split at h
    · rename_i unit
      subst unit
      unfold spelledChar at h
      split at h
      · cases h
      · rename_i first
        obtain ⟨a, b, c, e, rfl, digits⟩ := exists_hex_of_codeUnit first
        split at h
        · rename_i whole
          cases h
          exact ⟨['u', a, b, c, e], rfl, fun raw s spells => .unit digits whole spells⟩
        · split at h
          · obtain ⟨a', b', c', e', low, rfl, digits', follows, char⟩ := exists_hex_of_lowHalf h
            refine ⟨['u', a, b, c, e, '\\', 'u', a', b', c', e'], rfl, fun raw s spells => ?_⟩
            rw [char]
            exact .pair digits (by omega) digits' follows spells
          · cases h
    · split at h
      · rename_i known
        cases h
        exact ⟨[c], rfl, fun raw s => .letter known⟩
      · cases h

/-- What is taken behind a character is taken off the rest of the text. -/
theorem exists_quoted_of_map {c : Char} {cs ds rest : List Char}
    (h : (quoted cs).map (consText c) = .ok (ds, rest)) :
    ∃ es, quoted cs = .ok (es, rest) ∧ ds = c :: es := by
  cases inner : quoted cs with
  | error f =>
    rw [inner] at h
    cases h
  | ok read =>
    rw [inner] at h
    cases h
    exact ⟨read.1, rfl, rfl⟩

/-- A quoted text that is taken is spelled, up to its closing quote. -/
theorem exists_spells_of_quoted {cs ds rest : List Char} (h : quoted cs = .ok (ds, rest)) :
    ∃ raw, Spells raw ds ∧ cs = raw ++ '"' :: rest := by
  fun_induction quoted cs generalizing ds rest with
  | case1 => cases h
  | case2 =>
    cases h
    exact ⟨[], .nil, rfl⟩
  | case3 => cases h
  | case4 cs d tail found _ _ ih =>
    obtain ⟨es, inner, rfl⟩ := exists_quoted_of_map h
    obtain ⟨raw, spells, rfl⟩ := ih inner
    obtain ⟨spelling, rfl, escapes⟩ := exists_spells_of_escape found
    exact ⟨'\\' :: (spelling ++ raw), escapes raw es spells, by simp⟩
  | case5 => cases h
  | case6 c cs quote slash visible ih =>
    obtain ⟨es, inner, rfl⟩ := exists_quoted_of_map h
    obtain ⟨raw, spells, rfl⟩ := ih inner
    exact ⟨c :: raw, .plain visible quote slash spells, rfl⟩

/-! ### Items -/

theorem exists_gap (cs : List Char) : ∃ gap, Gap gap ∧ cs = gap ++ cs.dropWhile isGap :=
  ⟨cs.takeWhile isGap, fun _ => List.mem_takeWhile_imp, List.takeWhile_append_dropWhile.symm⟩

namespace Reader

/-- A reader takes nothing but texts of one kind. -/
def Takes {α : Type} (item : List Char → Option (α × List Char)) (kind : List Char → Prop) :
    Prop :=
  ∀ cs a rest, item cs = some (a, rest) → ∃ t, kind t ∧ cs = t ++ rest

/-- Texts of one kind, with blanks around them and commas between them. -/
structure Listed (kind listed : List Char → Prop) : Prop where
  last : ∀ before t after, Gap before → kind t → Gap after → listed (before ++ t ++ after)
  next : ∀ before t after cs, Gap before → kind t → Gap after → listed cs →
    listed (before ++ t ++ after ++ ',' :: cs)

section Items

variable {α : Type} {item : List Char → Option (α × List Char)} {kind listed : List Char → Prop}
  {close : Char}

theorem takes_series (takes : Takes item kind) (list : Listed kind listed) (steps : ℕ) :
    ∀ cs as rest, series item close steps cs = some (as, rest) →
      ∃ inner, listed inner ∧ cs = inner ++ close :: rest := by
  induction steps with
  | zero => exact nofun
  | succ steps ih =>
    intro cs as rest h
    rw [series] at h
    split at h
    · cases h
    · rename_i a behind taken
      obtain ⟨before, ahead, split⟩ := exists_gap cs
      obtain ⟨t, one, first⟩ := takes _ _ _ taken
      obtain ⟨after, blank, second⟩ := exists_gap behind
      rw [first] at split
      split at h
      · cases h
      · rename_i c tail found
        rw [found] at second
        split_ifs at h with comma closed
        · subst comma
          obtain ⟨⟨others, rest'⟩, later, eq⟩ := Option.map_eq_some_iff.1 h
          cases eq
          obtain ⟨inner, more, rfl⟩ := ih _ _ _ later
          refine ⟨_, list.next before t after inner ahead one blank more, ?_⟩
          rw [split, second]
          simp
        · subst closed
          cases h
          refine ⟨_, list.last before t after ahead one blank, ?_⟩
          rw [split, second]
          simp

theorem takes_enclosed (takes : Takes item kind) (list : Listed kind listed) {cs : List Char}
    {as : List α} {rest : List Char} (h : enclosed item close cs = some (as, rest)) :
    ∃ inner, (Gap inner ∨ listed inner) ∧ cs = inner ++ close :: rest := by
  unfold enclosed at h
  split at h
  · cases h
  · rename_i c tail found
    split_ifs at h with closed
    · cases h
      obtain ⟨gap, blank, whole⟩ := exists_gap cs
      rw [found, closed] at whole
      exact ⟨gap, .inl blank, whole⟩
    · obtain ⟨inner, list, whole⟩ := takes_series takes list _ _ _ _ h
      exact ⟨inner, .inr list, whole⟩

end Items

/-! ### Values -/

/-- A member with its own blanks, and more of them around it. -/
theorem memberText_gap {m : Member} {t before after : List Char} (ahead : Gap before)
    (text : MemberText m t) (behind : Gap after) : MemberText m (before ++ t ++ after) := by
  have join {gap gap' : List Char} (blank : Gap gap) (blank' : Gap gap') : Gap (gap ++ gap') :=
    fun c hc => (List.mem_append.1 hc).elim (blank c) (blank' c)
  obtain @⟨_, outer, named, opening, inner, ahead', name, middle, colon, value, behind'⟩ := text
  have wider := MemberText.mk (join ahead ahead') name middle colon value (join behind' behind)
  simpa only [List.append_assoc, List.cons_append] using wider

theorem listed_items : Listed Value Items :=
  ⟨fun _ _ _ ahead one blank => .last ahead one blank,
    fun _ _ _ _ ahead one blank more => .next ahead one blank more⟩

theorem listed_members :
    Listed (fun t => ∃ m, MemberText m t) fun cs => ∃ ms, Members ms cs :=
  ⟨fun _ _ _ ahead ⟨m, one⟩ blank => ⟨[m], .last (memberText_gap ahead one blank)⟩,
    fun _ _ _ _ ahead ⟨m, one⟩ blank ⟨ms, more⟩ =>
      ⟨m :: ms, .next (memberText_gap ahead one blank) more⟩⟩

theorem takes_member {value : List Char → Option (Json × List Char)} (takes : Takes value Value) :
    Takes (member value) fun t => ∃ m, MemberText m t := by
  intro cs a rest h
  unfold member at h
  split at h
  · rename_i cs
    split at h
    · cases h
    · rename_i name behind read
      obtain ⟨raw, spells, rfl⟩ := exists_spells_of_quoted read
      obtain ⟨named, middle, colon⟩ := exists_gap behind
      split at h
      · rename_i tail found
        obtain ⟨⟨v, rest'⟩, later, eq⟩ := Option.map_eq_some_iff.1 h
        cases eq
        obtain ⟨opening, blank, whole⟩ := exists_gap tail
        obtain ⟨t, one, first⟩ := takes _ _ _ later
        have none : Gap [] := nofun
        refine ⟨_, ⟨⟨raw, t⟩, .mk none spells.body middle blank one none⟩, ?_⟩
        rw [found, whole, first] at colon
        rw [colon]
        simp
      · cases h
  · cases h

theorem eq_ok_of_toOption {α : Type} {e : Except Fault α} {a : α} (h : e.toOption = some a) :
    e = .ok a := by
  cases e with
  | error f => cases h
  | ok b => exact congrArg _ (Option.some.inj h)

/-- A value that is taken is a value of the grammar. -/
theorem takes_value (depth : ℕ) : Takes (value depth) Value := by
  induction depth with
  | zero => exact nofun
  | succ depth ih =>
    intro cs v rest h
    unfold value at h
    split at h
    all_goals obtain ⟨read, taken, eq⟩ := Option.map_eq_some_iff.1 h
    case h_1 cs =>
      obtain ⟨inner, blank | items, rfl⟩ := takes_enclosed ih listed_items taken
      · exact ⟨_, .emptyArray blank, by simp [← (Prod.mk.inj eq).2]⟩
      · exact ⟨_, .array items, by simp [← (Prod.mk.inj eq).2]⟩
    case h_2 cs =>
      obtain ⟨inner, blank | ⟨ms, members⟩, rfl⟩ :=
        takes_enclosed (takes_member ih) listed_members taken
      · exact ⟨_, .emptyObject blank, by simp [← (Prod.mk.inj eq).2]⟩
      · exact ⟨_, .object members, by simp [← (Prod.mk.inj eq).2]⟩
    case h_3 cs =>
      obtain ⟨raw, spells, rfl⟩ := exists_spells_of_quoted (eq_ok_of_toOption taken)
      exact ⟨_, .text spells.body, by simp [← (Prod.mk.inj eq).2]⟩
    case h_4 cs =>
      cases eq
      exact ⟨_, .null, congrArg _ (eq_append_of_letters (eq_ok_of_toOption taken))⟩
    case h_5 cs =>
      cases eq
      exact ⟨_, .yes, congrArg _ (eq_append_of_letters (eq_ok_of_toOption taken))⟩
    case h_6 cs =>
      cases eq
      exact ⟨_, .no, congrArg _ (eq_append_of_letters (eq_ok_of_toOption taken))⟩
    case h_7 =>
      cases eq
      obtain ⟨t, numeral, whole⟩ := Numeral.writes_of_spelled (eq_ok_of_toOption taken)
      exact ⟨t, .number numeral, whole⟩

end Reader

/-! ### Documents -/

/-- The text of a document: a value with nothing but blanks around it. -/
inductive IsText : List Char → Prop
  | mk {before value after : List Char} (ahead : Gap before) (inner : Value value)
    (behind : Gap after) : IsText (before ++ (value ++ after))

/-- The reader reads documents of the grammar only. -/
theorem isText_of_ofText? {s : String} {v : Json} (h : ofText? s = some v) : IsText s.toList := by
  unfold ofText? at h
  split at h
  · rename_i v' rest taken
    split_ifs at h with blank
    obtain ⟨gap, ahead, whole⟩ := exists_gap s.toList
    obtain ⟨t, inner, first⟩ := Reader.takes_value _ _ _ _ taken
    rw [whole, first]
    exact .mk ahead inner (List.all_eq_true.1 blank)
  · cases h

/-- **What is written of a value is a document**, compactly and indented, whatever characters and
numbers there are in it. -/
theorem isText_write (style : Style) (v : Json) : IsText (v.write style 0).toList :=
  isText_of_ofText? (ofText?_write style v)

end CallToAction.Json
