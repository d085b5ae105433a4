import CallToAction.Proofs.Json.Exact
import CallToAction.Proofs.Json.Object

/-!
# Reading documents

A reader of JSON documents in general.  Whole numbers are read as they are, and any other number as
the double nearest to it; objects keep their members in order.  What is written of a value is read
as this value, in any layout and with any characters in its texts, up to the doubles that are not
finite: a document has no number for them, and so they are read as nulls.

* `Reader.value`, `ofText?`: the reader;
* `finitePart`: a value with nulls for the doubles that are not finite;
* `Reader.series_joinWith`, `Reader.exists_enclosed`: items are read one by one;
* `Reader.reads_write`, `ofText?_write`: a written value is read back.
-/

namespace CallToAction.Json

open Lexeme (letters quoted)

/-! ### The reader -/

namespace Reader

/-- The value of a numeral: a whole number, or the double nearest to a decimal. -/
def ofSpelled (s : Numeral.Spelled) : Json :=
  if s.IsWhole then
    .int (if s.negative then -(Literal.ofDigits s.whole : Int) else Literal.ofDigits s.whole)
  else .float (Binary64.ofDecimal s.negative s.decimal.digits s.decimal.exponent)

section Items

variable {α : Type} (item : List Char → Option (α × List Char)) (close : Char)

/-- Take items with commas between them off a text, and the closing mark behind them; each item is a
step. -/
def series : Nat → List Char → Option (List α × List Char)
  | 0, _ => none
  | steps + 1, cs =>
    match item (cs.dropWhile isGap) with
    | none => none
    | some (a, cs) =>
      match cs.dropWhile isGap with
      | [] => none
      | c :: cs =>
        if c = ',' then (series steps cs).map fun (as, rest) => (a :: as, rest)
        else if c = close then some ([a], cs)
        else none

/-- Take items, or none, and the closing mark off a text, behind the opening one. -/
def enclosed (cs : List Char) : Option (List α × List Char) :=
  match cs.dropWhile isGap with
  | [] => none
  | c :: rest => if c = close then some ([], rest) else series item close cs.length cs

end Items

/-- Take a member off a text. -/
def member (value : List Char → Option (Json × List Char)) :
    List Char → Option ((String × Json) × List Char)
  | '"' :: cs =>
    match quoted cs with
    | .error _ => none
    | .ok (name, cs) =>
      match cs.dropWhile isGap with
      | ':' :: cs => (value (cs.dropWhile isGap)).map fun (v, rest) => ((.ofList name, v), rest)
      | _ => none
  | _ => none

/-- Take a value off a text that does not begin with a blank; values lie in each other up to a
depth. -/
def value : Nat → List Char → Option (Json × List Char)
  | 0, _ => none
  | depth + 1, cs =>
    match cs with
    | '[' :: cs => (enclosed (value depth) ']' cs).map fun (items, rest) => (.array items, rest)
    | '\x7b' :: cs =>
      (enclosed (member (value depth)) '\x7d' cs).map fun (members, rest) =>
        (.object members, rest)
    | '"' :: cs => (quoted cs).toOption.map fun (ds, rest) => (.string (.ofList ds), rest)
    | 'n' :: cs => (letters "ull".toList cs).toOption.map fun rest => (.null, rest)
    | 't' :: cs => (letters "rue".toList cs).toOption.map fun rest => (.bool true, rest)
    | 'f' :: cs => (letters "alse".toList cs).toOption.map fun rest => (.bool false, rest)
    | cs => (Numeral.spelled cs).toOption.map fun (s, rest) => (ofSpelled s, rest)

end Reader

/-- The value that a document holds, with nothing but blanks around it.  A value is shorter than the
one it lies in, so the length of the text is depth enough. -/
def ofText? (s : String) : Option Json :=
  match Reader.value (s.length + 1) (s.toList.dropWhile isGap) with
  | some (v, rest) => if rest.all isGap then some v else none
  | none => none

/-! ### What a document can hold -/

mutual

/-- A value with nulls for the doubles that are not finite. -/
def finitePart : Json → Json
  | null => null
  | bool b => bool b
  | int i => int i
  | float x => if x.isFinite then float x else null
  | string s => string s
  | array items => array (finiteItems items)
  | object members => object (finiteMembers members)

/-- Items with nulls for the doubles that are not finite. -/
def finiteItems : List Json → List Json
  | [] => []
  | v :: rest => finitePart v :: finiteItems rest

/-- Members with nulls for the doubles that are not finite. -/
def finiteMembers : List (String × Json) → List (String × Json)
  | [] => []
  | (name, v) :: rest => (name, finitePart v) :: finiteMembers rest

end

theorem finiteItems_eq (items : List Json) : finiteItems items = items.map finitePart := by
  induction items with
  | nil => rw [finiteItems, List.map_nil]
  | cons v rest ih => rw [finiteItems, ih, List.map_cons]

theorem finiteMembers_eq (members : List (String × Json)) :
    finiteMembers members = members.map fun m => (m.1, m.2.finitePart) := by
  induction members with
  | nil => rw [finiteMembers, List.map_nil]
  | cons m rest ih => rw [finiteMembers, ih, List.map_cons]

@[simp] theorem finitePart_int (i : ℤ) : (int i).finitePart = int i := by rw [finitePart]

@[simp] theorem finitePart_string (s : String) : (string s).finitePart = string s := by
  rw [finitePart]

theorem finitePart_float (x : Float) :
    (float x).finitePart = if x.isFinite then float x else null := by
  rw [finitePart]

@[simp] theorem finitePart_array (items : List Json) :
    (array items).finitePart = array (items.map finitePart) := by
  rw [finitePart, finiteItems_eq]

@[simp] theorem finitePart_object (members : List (String × Json)) :
    (object members).finitePart = object (members.map fun m => (m.1, m.2.finitePart)) := by
  rw [finitePart, finiteMembers_eq]

namespace Reader

/-! ### Items between commas -/

/-- A text is taken off as `a`, whatever follows it that does not continue a number. -/
def Reads {α : Type} (item : List Char → Option (α × List Char)) (t : String) (a : α) : Prop :=
  ∀ rest, Numeral.Delimits rest → item (t.toList ++ rest) = some (a, rest)

/-- A reader of items takes nothing off a text that begins with a blank or a closing bracket. -/
structure Firm {α : Type} (item : List Char → Option (α × List Char)) : Prop where
  nil : item [] = none
  gap : ∀ c cs, isGap c = true → item (c :: cs) = none
  bracket : ∀ cs, item (']' :: cs) = none
  brace : ∀ cs, item ('\x7d' :: cs) = none

/-- A mark behind items. -/
def IsClosing (c : Char) : Prop := c = ']' ∨ c = '\x7d'

section Items

variable {α : Type} {item : List Char → Option (α × List Char)} {close : Char} {t : String} {a : α}
  {rest : List Char}

/-- An item that is read begins with a character of its own. -/
theorem Reads.exists_cons (h : Reads item t a) (firm : Firm item) :
    ∃ c cs, t.toList = c :: cs ∧ isGap c = false ∧ ¬ IsClosing c := by
  have read := h [] (by simp [Numeral.Delimits])
  rw [List.append_nil] at read
  cases text : t.toList with
  | nil =>
    rw [text, firm.nil] at read
    cases read
  | cons c cs =>
    refine ⟨c, cs, rfl, ?_, ?_⟩
    · rw [← Bool.not_eq_true]
      intro blank
      rw [text, firm.gap c cs blank] at read
      cases read
    · rintro (rfl | rfl)
      · rw [text, firm.bracket] at read
        cases read
      · rw [text, firm.brace] at read
        cases read

/-- Blanks before an item are left out. -/
theorem Reads.dropWhile_gap (h : Reads item t a) (firm : Firm item) {gap : List Char}
    (blank : Gap gap) : (gap ++ (t.toList ++ rest)).dropWhile isGap = t.toList ++ rest := by
  obtain ⟨c, cs, text, visible, -⟩ := h.exists_cons firm
  rw [List.dropWhile_append_of_pos blank, text, List.cons_append,
    List.dropWhile_cons_of_neg (by simp [visible])]

theorem IsClosing.dropWhile_gap (h : IsClosing close) {gap : List Char} (blank : Gap gap) :
    (gap ++ close :: rest).dropWhile isGap = close :: rest := by
  rw [List.dropWhile_append_of_pos blank]
  rcases h with rfl | rfl <;> rfl

theorem IsClosing.delimits (h : IsClosing close) : Numeral.Delimits (close :: rest) := by
  rintro c ⟨⟩
  rcases h with rfl | rfl <;> decide

/-- The step of an item: it is taken off, and what follows it decides. -/
theorem series_append (firm : Firm item) {gap : List Char} (blank : Gap gap)
    (reads : Reads item t a) (delimits : Numeral.Delimits rest) (steps : ℕ) :
    series item close (steps + 1) (gap ++ (t.toList ++ rest)) =
      match rest.dropWhile isGap with
      | [] => none
      | c :: cs =>
        if c = ',' then (series item close steps cs).map fun (as, rest) => (a :: as, rest)
        else if c = close then some ([a], cs)
        else none := by
  rw [series, reads.dropWhile_gap firm blank, reads rest delimits]

/-- Items with commas between them are read one by one. -/
theorem series_joinWith (firm : Firm item) (closing : IsClosing close) {gap : String}
    {behind : List Char} (blank : Gap gap.toList) (blank' : Gap behind) {ts : List String}
    {as : List α} (reads : List.Forall₂ (Reads item) ts as) (some : ts ≠ []) {steps : ℕ}
    (enough : ts.length ≤ steps) :
    series item close steps
        (gap.toList ++ ((Text.joinWith ("," ++ gap) ts).toList ++ (behind ++ close :: rest))) =
      .some (as, rest) := by
  induction reads generalizing steps with
  | nil => exact absurd rfl some
  | @cons t a ts as first others ih =>
    obtain ⟨steps, rfl⟩ : ∃ n, steps = n + 1 := ⟨steps - 1, by simp at enough; omega⟩
    cases others with
    | nil =>
      rw [Text.joinWith, series_append firm blank first (delimits_gap blank' closing.delimits),
        closing.dropWhile_gap blank']
      have other : close ≠ ',' := by rcases closing with rfl | rfl <;> decide
      simp [other]
    | @cons t' a' ts' as' second others =>
      have later := ih (List.cons_ne_nil _ _) (Nat.le_of_succ_le_succ enough)
      have split : (Text.joinWith ("," ++ gap) (t :: t' :: ts')).toList ++
          (behind ++ close :: rest) = t.toList ++ (',' :: (gap.toList ++
            ((Text.joinWith ("," ++ gap) (t' :: ts')).toList ++ (behind ++ close :: rest)))) := by
        simp [Text.joinWith, String.toList_append]
      rw [split, series_append firm blank first delimits_comma,
        List.dropWhile_cons_of_neg (by decide)]
      dsimp only
      rw [if_pos rfl, later]
      rfl

/-- There are no more items than commas and a closing mark. -/
theorem length_le_joinWith {separator : String} (some : 0 < separator.length) (ts : List String) :
    ts.length ≤ (Text.joinWith separator ts).length + 1 := by
  fun_induction Text.joinWith separator ts with
  | case1 => exact Nat.zero_le _
  | case2 => exact Nat.le_add_left _ _
  | case3 t ts _ ih =>
    rw [String.length_append, String.length_append, List.length_cons]
    omega

theorem length_le_joinWith_of_mem {separator : String} {ts : List String} (h : t ∈ ts) :
    t.length ≤ (Text.joinWith separator ts).length := by
  fun_induction Text.joinWith separator ts with
  | case1 => cases h
  | case2 => rw [List.mem_singleton.1 h]
  | case3 t ts _ ih =>
    rw [String.length_append, String.length_append]
    rcases List.mem_cons.1 h with rfl | h
    · omega
    · have := ih h
      omega

theorem gap_lineBreak (style : Style) (depth : ℕ) : Gap (style.lineBreak depth).toList := by
  cases style with
  | compact => exact nofun
  | indented =>
    intro c hc
    rw [Style.lineBreak, String.toList_append] at hc
    rcases List.mem_append.1 hc with hc | hc
    · rw [List.mem_singleton.1 hc]
      rfl
    · rw [Text.spaces, String.toList_ofList] at hc
      rw [List.eq_of_mem_replicate hc]
      rfl

/-- What is enclosed is shorter than the whole. -/
theorem length_lt_enclose (style : Style) (depth : ℕ) {left right : String} {ts : List String}
    (some : 0 < left.length) (h : t ∈ ts) :
    t.length < (style.enclose depth left right ts).length := by
  have inside : t.length ≤ (Text.joinWith ("," ++ style.lineBreak (depth + 1)) ts).length :=
    length_le_joinWith_of_mem h
  cases ts with
  | nil => cases h
  | cons t ts =>
    simp only [Style.enclose, String.length_append]
    omega

theorem exists_joinWith_cons (separator t : String) (ts : List String) :
    ∃ more, Text.joinWith separator (t :: ts) = t ++ more := by
  cases ts with
  | nil => exact ⟨"", by rw [Text.joinWith, String.append_empty]⟩
  | cons t' ts => exact ⟨_, by rw [Text.joinWith, String.append_assoc]; simp⟩

/-- Behind the opening mark an item is not taken for the closing one. -/
theorem enclosed_joinWith (firm : Firm item) (closing : IsClosing close) {gap : String}
    {behind : List Char} (blank : Gap gap.toList) (blank' : Gap behind) {ts : List String}
    {as : List α} (reads : List.Forall₂ (Reads item) (t :: ts) (a :: as)) :
    enclosed item close
        (gap.toList ++
          ((Text.joinWith ("," ++ gap) (t :: ts)).toList ++ (behind ++ close :: rest))) =
      some (a :: as, rest) := by
  have enough : (t :: ts).length ≤ (gap.toList ++
      ((Text.joinWith ("," ++ gap) (t :: ts)).toList ++ (behind ++ close :: rest))).length := by
    have comma : 0 < ("," ++ gap).length := by
      rw [String.length_append]
      exact Nat.add_pos_left (by decide) _
    have := length_le_joinWith comma (t :: ts)
    simp only [List.length_append, String.length_toList, List.length_cons] at this ⊢
    omega
  rw [← series_joinWith firm closing blank blank' reads (List.cons_ne_nil _ _) enough]
  obtain ⟨first, -⟩ := List.forall₂_cons.1 reads
  obtain ⟨c, cs, text, -, other⟩ := first.exists_cons firm
  obtain ⟨more, begins⟩ := exists_joinWith_cons ("," ++ gap) t ts
  have differs : c ≠ close := by
    rintro rfl
    exact other closing
  rw [begins, String.toList_append, List.append_assoc, enclosed, first.dropWhile_gap firm blank]
  simp only [text, List.cons_append, if_neg differs]

/-- Enclosed items are read one by one. -/
theorem exists_enclosed (firm : Firm item) (closing : IsClosing close) (style : Style) (depth : ℕ)
    (left : String) {right : String} (closes : right.toList = [close]) {ts : List String}
    {as : List α} (reads : List.Forall₂ (Reads item) ts as) :
    ∃ inner, (style.enclose depth left right ts).toList = left.toList ++ inner ∧
      ∀ rest, enclosed item close (inner ++ rest) = some (as, rest) := by
  cases ts with
  | nil =>
    cases reads
    refine ⟨[close], by simp [Style.enclose, String.toList_append, closes], fun rest => ?_⟩
    have blank : Gap [] := nofun
    have first : (close :: rest).dropWhile isGap = close :: rest := closing.dropWhile_gap blank
    rw [List.singleton_append, enclosed, first]
    exact if_pos rfl
  | cons t ts =>
    obtain ⟨a, as, -, -, rfl⟩ := List.forall₂_cons_left_iff.1 reads
    have blank := gap_lineBreak style (depth + 1)
    have blank' := gap_lineBreak style depth
    refine ⟨(style.lineBreak (depth + 1)).toList ++
      ((Text.joinWith ("," ++ style.lineBreak (depth + 1)) (t :: ts)).toList ++
        ((style.lineBreak depth).toList ++ [close])), ?_, fun rest => ?_⟩
    · simp [Style.enclose, String.toList_append, closes]
    · simp only [List.append_assoc, List.singleton_append]
      exact enclosed_joinWith firm closing blank blank' reads

end Items

/-! ### Values -/

theorem isGap_cases {c : Char} (h : isGap c = true) : c = ' ' ∨ c = '\n' ∨ c = '\t' ∨ c = '\r' := by
  simpa [isGap, or_assoc] using h

theorem firm_value (depth : ℕ) : Firm (value depth) := by
  cases depth with
  | zero => exact ⟨rfl, fun _ _ _ => rfl, fun _ => rfl, fun _ => rfl⟩
  | succ depth =>
    refine ⟨rfl, fun c cs blank => ?_, fun _ => rfl, fun _ => rfl⟩
    rcases isGap_cases blank with rfl | rfl | rfl | rfl <;> rfl

theorem firm_member (value : List Char → Option (Json × List Char)) : Firm (member value) := by
  refine ⟨rfl, fun c cs blank => ?_, fun _ => rfl, fun _ => rfl⟩
  rcases isGap_cases blank with rfl | rfl | rfl | rfl <;> rfl

theorem value_of_digit {c : Char} (cs : List Char) (h : c = '-' ∨ c.isDigit = true) (depth : ℕ) :
    value (depth + 1) (c :: cs) =
      (Numeral.spelled (c :: cs)).toOption.map fun (s, rest) => (ofSpelled s, rest) := by
  have ne (d : Char) (other : ¬ (d = '-' ∨ d.isDigit = true)) : c ≠ d := fun e => other (e ▸ h)
  unfold value
  split <;> rename_i begins <;> first
    | exact absurd (List.head_eq_of_cons_eq begins) (ne _ (by decide))
    | rfl

theorem reads_numeral {s : Numeral.Spelled} {t : String} (written : Numeral.Writes s t.toList)
    (depth : ℕ) : Reads (value (depth + 1)) t (ofSpelled s) := by
  intro rest delimits
  obtain ⟨c, cs, text, begins⟩ := written.exists_cons
  have spelled := Numeral.spelled_append written delimits
  rw [text, List.cons_append] at spelled ⊢
  rw [value_of_digit (cs ++ rest) begins, spelled]
  rfl

theorem toList_quote (s : String) :
    (quote s).toList = '"' :: (s.toList.flatMap escapeChar ++ ['"']) := by
  rw [quote, String.toList_ofList, List.cons_append]

theorem reads_quote (s : String) (depth : ℕ) :
    Reads (value (depth + 1)) (quote s) (.string s) := by
  intro rest _
  have read := (spells_escaped s.toList).quoted rest
  rw [toList_quote, List.cons_append, List.append_assoc, List.singleton_append, value]
  rw [read]
  simp [Except.toOption]

theorem exists_colon (style : Style) :
    ∃ gap, Gap gap ∧ style.colon.toList = ':' :: gap := by
  cases style with
  | compact => exact ⟨[], nofun, rfl⟩
  | indented => exact ⟨[' '], by simp [Gap, isGap], rfl⟩

theorem reads_member {steps : ℕ} (style : Style) (name : String) {t : String} {v : Json}
    (reads : Reads (value steps) t v) :
    Reads (member (value steps)) (quote name ++ style.colon ++ t) (name, v) := by
  intro rest delimits
  obtain ⟨gap, blank, colon⟩ := exists_colon style
  have text : (quote name ++ style.colon ++ t).toList ++ rest =
      '"' :: (name.toList.flatMap escapeChar ++ '"' :: ':' :: (gap ++ (t.toList ++ rest))) := by
    simp [toList_quote, String.toList_append, colon]
  rw [text, member, (spells_escaped name.toList).quoted]
  show (value steps ((gap ++ (t.toList ++ rest)).dropWhile isGap)).map _ = _
  rw [reads.dropWhile_gap (firm_value steps) blank, reads rest delimits, String.ofList_toList]
  rfl

/-- The value of a whole number, as its text states it. -/
theorem ofSpelled_int (i : ℤ) :
    ofSpelled ⟨decide (i < 0), Nat.toDigits 10 i.natAbs, [], none⟩ = .int i := by
  have back : Literal.ofDigits (Nat.toDigits 10 i.natAbs) = i.natAbs :=
    Nat.ofDigitChars_ten_toDigits
  rw [ofSpelled, if_pos ⟨rfl, rfl⟩, back]
  congr 1
  simp only [decide_eq_true_eq]
  split_ifs with negative
  · omega
  · omega

/-- A finite double is read as it is, and for any other there is a null. -/
theorem reads_float (x : Float) (depth : ℕ) :
    Reads (value (depth + 1)) ((Number.json? x).getD "null") (float x).finitePart := by
  rw [finitePart]
  cases printed : Number.json? x with
  | none =>
    rw [Number.json?_eq_none_iff] at printed
    rw [printed]
    exact fun rest _ => rfl
  | some t =>
    have finite : x.isFinite = true := by
      rw [← Bool.not_eq_false, ← Number.json?_eq_none_iff, printed]
      exact Option.some_ne_none t
    obtain ⟨s, written, marked, value⟩ := Numeral.exists_writes_json? printed
    have read := reads_numeral written depth
    rw [ofSpelled, if_neg marked, value] at read
    rwa [if_pos finite, Option.getD_some]

mutual

/-- What is written of a value is read as the value. -/
theorem reads_write (style : Style) (depth : ℕ) :
    ∀ (v : Json) (steps : ℕ), (v.write style depth).length < steps →
      Reads (value steps) (v.write style depth) v.finitePart
  | .null, steps + 1, _ => by
    rw [write, finitePart]
    exact fun rest _ => rfl
  | .bool b, steps + 1, _ => by
    rw [write, finitePart]
    cases b with
    | true => exact fun rest _ => rfl
    | false => exact fun rest _ => rfl
  | .int i, steps + 1, _ => by
    rw [write, finitePart, ← ofSpelled_int i]
    exact reads_numeral (Numeral.writes_intRepr i) steps
  | .float x, steps + 1, _ => by
    rw [write]
    exact reads_float x steps
  | .string s, steps + 1, _ => by
    rw [write, finitePart]
    exact reads_quote s steps
  | .array items, steps + 1, enough => by
    rw [write] at enough ⊢
    rw [finitePart]
    have inner (t : String) (h : t ∈ writeItems style (depth + 1) items) : t.length < steps :=
      Nat.lt_of_lt_of_le (length_lt_enclose style depth (by decide) h)
        (Nat.le_of_lt_succ enough)
    have reads := reads_writeItems style (depth + 1) items steps inner
    have closes : "]".toList = [']'] := rfl
    obtain ⟨cs, text, read⟩ :=
      exists_enclosed (firm_value steps) (.inl rfl) style depth "[" closes reads
    intro rest _
    rw [text, List.append_assoc]
    show (enclosed (value steps) ']' (cs ++ rest)).map _ = _
    rw [read]
    rfl
  | .object members, steps + 1, enough => by
    rw [write] at enough ⊢
    rw [finitePart]
    have inner (t : String) (h : t ∈ writeMembers style (depth + 1) members) :
        t.length < steps :=
      Nat.lt_of_lt_of_le (length_lt_enclose style depth (by decide) h)
        (Nat.le_of_lt_succ enough)
    have reads := reads_writeMembers style (depth + 1) members steps inner
    have closes : "\x7d".toList = ['\x7d'] := rfl
    obtain ⟨cs, text, read⟩ :=
      exists_enclosed (firm_member (value steps)) (.inr rfl) style depth "\x7b" closes reads
    intro rest _
    rw [text, List.append_assoc]
    show (enclosed (member (value steps)) '\x7d' (cs ++ rest)).map _ = _
    rw [read]
    rfl

theorem reads_writeItems (style : Style) (depth : ℕ) :
    ∀ (items : List Json) (steps : ℕ), (∀ t ∈ writeItems style depth items, t.length < steps) →
      List.Forall₂ (Reads (value steps)) (writeItems style depth items) (finiteItems items)
  | [], _, _ => by
    rw [writeItems, finiteItems]
    exact .nil
  | v :: rest, steps, enough => by
    rw [writeItems, List.forall_mem_cons] at enough
    rw [writeItems, finiteItems]
    exact .cons (reads_write style depth v steps enough.1)
      (reads_writeItems style depth rest steps enough.2)

theorem reads_writeMembers (style : Style) (depth : ℕ) :
    ∀ (members : List (String × Json)) (steps : ℕ),
      (∀ t ∈ writeMembers style depth members, t.length < steps) →
      List.Forall₂ (Reads (member (value steps))) (writeMembers style depth members)
        (finiteMembers members)
  | [], _, _ => by
    rw [writeMembers, finiteMembers]
    exact .nil
  | (name, v) :: rest, steps, enough => by
    rw [writeMembers, List.forall_mem_cons] at enough
    rw [writeMembers, finiteMembers]
    refine .cons (reads_member style name (reads_write style depth v steps ?_))
      (reads_writeMembers style depth rest steps enough.2)
    have := enough.1
    rw [String.length_append] at this
    omega

end

end Reader

open Reader in
/-- **What is written of a value is read back**, compactly and indented: every text, every whole
number and every finite double, and the order of items and members. -/
theorem ofText?_write (style : Style) (v : Json) :
    ofText? (v.write style 0) = some v.finitePart := by
  have read := reads_write style 0 v ((v.write style 0).length + 1) (Nat.lt_succ_self _)
  obtain ⟨c, cs, text, visible, -⟩ := read.exists_cons (firm_value _)
  have first : (v.write style 0).toList.dropWhile isGap = (v.write style 0).toList := by
    rw [text, List.dropWhile_cons_of_neg (by simp [visible])]
  have taken := read [] (by simp [Numeral.Delimits])
  rw [List.append_nil] at taken
  rw [ofText?, first, taken]
  rfl

end CallToAction.Json
