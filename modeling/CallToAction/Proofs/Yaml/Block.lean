import CallToAction.Proofs.Yaml.Scanning

/-!
# The tokens of a block mapping

A text may be a single block mapping of scalars without quotes, with each entry on a line of its
own that is not indented, and with blank lines and comments between the lines.  Such a line is read
as the mark of a key, the key, the mark of a value and the value; where the mapping begins and ends
stand tokens of their own.

* `Line`: the lines of the text;
* `exists_gap_after`, `exists_plain?_before`: what stands between one entry and the next;
* `Reading.leads_line`: an entry is read as its four tokens;
* `tokens_blockText`: the tokens of the text.
-/

namespace CallToAction.Yaml

/-! ### Texts and their tokens -/

/-- A line of a text: an entry of a mapping, or blanks, which a comment may follow. -/
inductive Line
  | entry (w : Written)
  | filler (blanks : List Char) (comment : Option (List Char))

namespace Line

/-- A line as it is written, without its line break. -/
def text : Line → List Char
  | entry w => w.key ++ ':' :: ' ' :: w.value
  | filler blanks none => blanks
  | filler blanks (some comment) => blanks ++ '#' :: comment

/-- A line that is what it seems to be. -/
inductive Plain : Line → Prop
  | entry {w : Written} (plain : w.Plain) : Plain (entry w)
  | filler {blanks : List Char} {comment : Option (List Char)}
    (blank : ∀ c ∈ blanks, isBlank c = true) (line : ∀ cs ∈ comment, '\n' ∉ cs) :
    Plain (filler blanks comment)

end Line

/-- Lines, each behind a line break. -/
def after : List Line → List Char
  | [] => []
  | l :: ls => '\n' :: (l.text ++ after ls)

/-- Lines with a line break between two of them. -/
def blockText : List Line → List Char
  | [] => []
  | l :: ls => l.text ++ after ls

/-- The entries among lines. -/
def entries : List Line → List Written
  | [] => []
  | .entry w :: ls => w :: entries ls
  | .filler _ _ :: ls => entries ls

theorem mem_entries {w : Written} {ls : List Line} : w ∈ entries ls ↔ .entry w ∈ ls := by
  induction ls with
  | nil => simp [entries]
  | cons l ls ih => cases l <;> simp [entries, ih]

theorem mem_after {l : Line} {ls : List Line} (h : l ∈ ls) {c : Char} (hc : c ∈ l.text) :
    c ∈ after ls := by
  induction ls with
  | nil => cases h
  | cons first ls ih =>
    rcases List.mem_cons.1 h with rfl | h
    · exact List.mem_cons_of_mem _ (List.mem_append_left _ hc)
    · exact List.mem_cons_of_mem _ (List.mem_append_right _ (ih h))

theorem mem_blockText {l : Line} {ls : List Line} (h : l ∈ ls) {c : Char} (hc : c ∈ l.text) :
    c ∈ blockText ls := by
  cases ls with
  | nil => cases h
  | cons first ls =>
    rcases List.mem_cons.1 h with rfl | h
    · exact List.mem_append_left _ hc
    · exact List.mem_append_right _ (mem_after h hc)

/-- Lines from the first entry on. -/
def coming : List Line → List Char
  | [] => []
  | .entry w :: ls => (Line.entry w).text ++ after ls
  | .filler _ _ :: ls => coming ls

/-! ### Gaps -/

variable {comments : Bool} {margin : Nat} {stretch : Stretch}

theorem length_pastGap?_le {gap gap' : Gap} {p : Place} {cs : List Char} {t : Cursor}
    (h : pastGap? comments margin stretch gap p cs = some (gap', t)) :
    t.rest.length ≤ cs.length := by
  fun_induction pastGap? comments margin stretch gap p cs
  case case1 | case10 =>
    cases h
    exact Nat.le_refl _
  case case6 => cases h
  case case2 ih | case3 ih | case4 ih | case5 ih | case7 ih | case8 ih | case9 ih =>
    exact Nat.le_succ_of_le (ih h)

/-- Blanks are passed over. -/
theorem exists_pastGap?_blanks {blanks : List Char} (blank : ∀ c ∈ blanks, isBlank c = true)
    (inside : stretch ≠ .comment) (rest : List Char) (gap : Gap) (p : Place) :
    ∃ stretch' gap', stretch' ≠ .comment ∧
      pastGap? comments margin stretch gap p (blanks ++ rest)
        = pastGap? comments margin stretch' gap' (p.past blanks) rest := by
  induction blanks generalizing stretch gap p with
  | nil => exact ⟨stretch, gap, inside, rfl⟩
  | cons c blanks ih =>
    have first := blank c List.mem_cons_self
    have line : c ≠ '\n' := by
      rintro rfl
      cases first
    have ih {stretch : Stretch} (inside : stretch ≠ .comment) (gap : Gap) :=
      ih (fun d hd => blank d (List.mem_cons_of_mem _ hd)) inside gap (p.after c)
    cases stretch with
    | comment => exact absurd rfl inside
    | tabbed =>
      rw [List.cons_append, pastGap?, if_neg line, if_pos first]
      exact ih (by decide) gap
    | free =>
      rw [List.cons_append, pastGap?, if_neg line]
      split
      · exact ih (by decide) gap
      · exact ih (by decide) _

/-- A comment is passed over. -/
theorem pastGap?_comment {cs : List Char} (line : '\n' ∉ cs) (rest : List Char) (gap : Gap)
    (p : Place) :
    pastGap? comments margin .comment gap p (cs ++ rest)
      = pastGap? comments margin .comment gap (p.past cs) rest := by
  induction cs generalizing p with
  | nil => rfl
  | cons c cs ih =>
    obtain ⟨other, line⟩ := not_or.1 (mt List.mem_cons.2 line)
    rw [List.cons_append, pastGap?, if_neg (Ne.symm other)]
    exact ih line (p.after c)

/-- The place at the beginning of the next line. -/
theorem past_filler {blanks : List Char} (blank : ∀ c ∈ blanks, isBlank c = true) (p : Place) :
    p.past blanks = ⟨p.index + blanks.length, p.line, p.column + blanks.length, p.fresh⟩ := by
  have line : '\n' ∉ blanks := by
    intro h
    cases blank _ h
  rw [Place.past_of_line line, List.all_eq_true.2 blank, Bool.and_true]

/-- A line without an entry is passed over, if comments are. -/
theorem exists_pastGap?_filler {l : Line} (plain : l.Plain) (filler : ∀ w, l ≠ .entry w)
    (rest : List Char) (gap : Gap) (p : Place) :
    ∃ stretch gap' q, q.line = p.line ∧
      pastGap? true margin .free gap p (l.text ++ rest)
        = pastGap? true margin stretch gap' q rest := by
  cases plain with
  | entry => exact absurd rfl (filler _)
  | @filler blanks comment blank line =>
    have free : Stretch.free ≠ .comment := by decide
    cases comment with
    | none =>
      obtain ⟨stretch, gap', -, passed⟩ := exists_pastGap?_blanks blank free rest gap p
      exact ⟨stretch, gap', _, by rw [past_filler blank], passed⟩
    | some comment =>
      obtain ⟨stretch, gap', inside, passed⟩ :=
        exists_pastGap?_blanks blank free ('#' :: (comment ++ rest)) gap p
      have begun : pastGap? true margin stretch gap' (p.past blanks) ('#' :: (comment ++ rest))
          = pastGap? true margin .comment gap' ((p.past blanks).after '#') (comment ++ rest) := by
        cases stretch with
        | comment => exact absurd rfl inside
        | free | tabbed => rfl
      refine ⟨.comment, gap', ((p.past blanks).after '#').past comment, ?_, ?_⟩
      · rw [Place.past_of_line (line comment rfl), past_filler blank]
        rfl
      · rw [Line.text, List.append_assoc, List.cons_append, passed, begun,
          pastGap?_comment (line comment rfl)]

theorem pastGap?_newline (rest : List Char) (gap : Gap) (p : Place) :
    pastGap? comments margin stretch gap p ('\n' :: rest)
      = pastGap? comments margin .free gap.addBreak (p.after '\n') rest := by
  cases stretch <;> rfl

/-- A gap ends before an entry. -/
theorem pastGap?_entry {w : Written} (plain : w.Plain) (ls : List Line) (gap : Gap) (p : Place) :
    pastGap? comments margin .free gap p (coming (.entry w :: ls))
      = some (gap, ⟨p, coming (.entry w :: ls)⟩) := by
  obtain ⟨c, cs, begins, content⟩ := plain.key.exists_cons (':' :: ' ' :: (w.value ++ after ls))
  have text : coming (.entry w :: ls) = c :: cs := by
    rw [← begins]
    simp [coming, Line.text]
  rw [text]
  exact pastGap?_of_content _ (isGap_of_isPlainChar content)
    (.inr (ne_of_isPlainChar content rfl))

/-- The gap behind an entry ends at the next one, at the beginning of a line. -/
theorem exists_gap_after {ls : List Line} (plain : ∀ l ∈ ls, l.Plain) (gap : Gap) (p : Place) :
    ∃ gap' q, pastGap? true margin stretch gap p (after ls) = some (gap', ⟨q, coming ls⟩) ∧
      (coming ls ≠ [] → q.column = 0 ∧ p.line < q.line) := by
  induction ls generalizing stretch gap p with
  | nil => exact ⟨gap, p, by cases stretch <;> rfl, fun some => absurd rfl some⟩
  | cons l ls ih =>
    have others : ∀ l ∈ ls, l.Plain := fun l hl => plain l (List.mem_cons_of_mem _ hl)
    have first := plain l List.mem_cons_self
    rw [after, pastGap?_newline]
    cases l with
    | entry w =>
      obtain ⟨plain⟩ := first
      exact ⟨gap.addBreak, p.after '\n', pastGap?_entry plain ls _ _,
        fun _ => ⟨rfl, Nat.lt_succ_self _⟩⟩
    | filler blanks comment =>
      obtain ⟨stretch, gap', q, line, passed⟩ :=
        exists_pastGap?_filler first (by simp) (after ls) gap.addBreak (p.after '\n')
      obtain ⟨gap'', q', reached, place⟩ := ih others gap' q
      refine ⟨gap'', q', passed.trans reached, fun some => ⟨(place some).1, ?_⟩⟩
      have newer := (place some).2
      rw [line] at newer
      exact Nat.lt_of_succ_lt newer

/-- The cursor stands before the next entry of lines, in the gap before it.  A key may begin there,
if the entry stands on a later line or if it is allowed anyway. -/
def Resumes (ls : List Line) (allowed : Bool) (t : Cursor) : Prop :=
  ∃ gap q, t.gap? true 0 = some (gap, ⟨q, coming ls⟩) ∧
    (coming ls ≠ [] → q.column = 0 ∧ (allowed = true ∨ t.place.line < q.line))

theorem resumes_comment {comment : List Char} {ls : List Line} {p : Place}
    (line : '\n' ∉ comment) (plain : ∀ l ∈ ls, l.Plain) (fresh : p.fresh = true) :
    Resumes ls p.fresh ⟨p, '#' :: (comment ++ after ls)⟩ := by
  obtain ⟨gap, q, reached, next⟩ :=
    exists_gap_after plain (.blanks []) ((p.after '#').past comment)
  refine ⟨gap, q, Eq.trans ?_ reached, fun some => ⟨(next some).1, .inl fresh⟩⟩
  exact pastGap?_comment line (after ls) (.blanks []) (p.after '#')

/-- A plain scalar ends before the next entry, or before a comment in front of it. -/
theorem exists_gap_plain {ls : List Line} (plain : ∀ l ∈ ls, l.Plain) (gap : Gap) (p : Place) :
    ∃ gap' t, pastGap? false 1 stretch gap p (after ls) = some (gap', t) ∧
      plainGoesOn false 1 t = false ∧ Resumes ls t.place.fresh t := by
  induction ls generalizing stretch gap p with
  | nil =>
    refine ⟨gap, ⟨p, []⟩, by cases stretch <;> rfl, by simp [plainGoesOn], .blanks [], p, rfl, ?_⟩
    exact fun some => absurd rfl some
  | cons l ls ih =>
    have others : ∀ l ∈ ls, l.Plain := fun l hl => plain l (List.mem_cons_of_mem _ hl)
    have first := plain l List.mem_cons_self
    rw [after, pastGap?_newline]
    cases first with
    | @entry w written =>
      exact ⟨gap.addBreak, ⟨p.after '\n', coming (.entry w :: ls)⟩, pastGap?_entry written ls _ _,
        rfl, .blanks [], p.after '\n', pastGap?_entry written ls _ _, fun _ => ⟨rfl, .inl rfl⟩⟩
    | @filler blanks comment blank line =>
      have free : Stretch.free ≠ .comment := by decide
      cases comment with
      | none =>
        obtain ⟨stretch, gap', -, passed⟩ :=
          exists_pastGap?_blanks blank free (after ls) gap.addBreak (p.after '\n')
        obtain ⟨gap'', t, reached, ended, resumes⟩ := ih others gap' ((p.after '\n').past blanks)
        exact ⟨gap'', t, passed.trans reached, ended, resumes⟩
      | some comment =>
        have line := line comment rfl
        obtain ⟨stretch, gap', inside, passed⟩ := exists_pastGap?_blanks blank free
          ('#' :: (comment ++ after ls)) gap.addBreak (p.after '\n')
        rw [Line.text, List.append_assoc, List.cons_append]
        generalize place : (p.after '\n').past blanks = q at passed
        have fresh : q.fresh = true := by
          rw [← place, past_filler blank]
          rfl
        cases stretch with
        | comment => exact absurd rfl inside
        | tabbed =>
          -- a tab before the margin leaves room for a comment, which belongs to the gap
          obtain ⟨gap'', t, reached, ended, resumes⟩ := ih others gap' ((q.after '#').past comment)
          refine ⟨gap'', t, passed.trans (Eq.trans ?_ reached), ended, resumes⟩
          exact pastGap?_comment line (after ls) gap' (q.after '#')
        | free =>
          -- the comment ends the scalar
          exact ⟨gap', ⟨q, '#' :: (comment ++ after ls)⟩,
            passed.trans (pastGap?_of_content _ rfl (.inl rfl)), by simp [plainGoesOn],
            resumes_comment line others fresh⟩

/-- The value of an entry is read up to the gap before the next one. -/
theorem exists_plain?_before {ls : List Line} {word : List Char} (plain : PlainText word)
    (lines : ∀ l ∈ ls, l.Plain) (p : Place) :
    ∃ t, Resumes ls t.place.fresh t ∧ t.rest.length ≤ (after ls).length ∧
      Cursor.plain? false 1 ⟨p, word ++ after ls⟩ = some (word, t) := by
  cases ls with
  | nil =>
    have whole : Cursor.plain? false 1 ⟨p, word ++ []⟩ = some (word, ⟨p.past word, []⟩) :=
      plain?_append plain (by simp) rfl _ (.inl rfl)
    exact ⟨_, ⟨.blanks [], _, rfl, fun some => absurd rfl some⟩, Nat.le_refl _, whole⟩
  | cons l ls =>
    obtain ⟨gap, t, reached, ended, resumes⟩ :=
      exists_gap_plain lines (.blanks []) (p.past word)
    exact ⟨t, resumes, length_pastGap?_le reached,
      plain?_append_gap plain rfl (by simp [after]) reached ended⟩

/-! ### Steps -/

namespace Reading

/-- The outline between two entries of a mapping, or before its first one. -/
def outlineBetween (begun : Bool) : Outline := if begun then ⟨1, [⟨true, 0⟩]⟩ else {}

/-- A reading between two entries of a mapping, or before its first one. -/
def between (tokens : List Token) (begun allowed : Bool) (cursor : Cursor) : Reading where
  cursor
  tokens
  outline := outlineBetween begun
  keyAllowed := allowed

/-- A reading behind a key. -/
def behindKey (tokens : List Token) (begun allowed : Bool) (place : Place) (key : List Char)
    (cursor : Cursor) : Reading where
  cursor
  tokens := tokens ++ [.scalar .plain (.ofList key)]
  outline := outlineBetween begun
  key := some ⟨tokens.length, place, begun⟩
  keyAllowed := allowed

/-- The token that begins a mapping, unless it has begun. -/
def opening (begun : Bool) : List Token := if begun then [] else [.blockStart .mapping]

/-- A reading behind the mark of a value. -/
def behindColon (tokens : List Token) (cursor : Cursor) : Reading where
  cursor
  tokens
  outline := ⟨2, [⟨false, 1⟩, ⟨true, 0⟩]⟩
  keyAllowed := false

variable (tokens : List Token) (begun : Bool) {allowed : Bool} {word rest : List Char}

/-- A key may begin behind the gap, if anything comes there. -/
theorem pastGap?_between {ls : List Line} {t : Cursor} (resumes : Resumes ls allowed t) :
    ∃ q allowed', pastGap? (between tokens begun allowed t)
        = some (between tokens begun allowed' ⟨q, coming ls⟩) ∧
      (coming ls ≠ [] → q.column = 0 ∧ allowed' = true) := by
  obtain ⟨gap, q, passed, place⟩ := resumes
  refine ⟨q, allowed || decide (t.place.line < q.line), ?_, by simpa using place⟩
  have margin : (outlineBetween begun).margin - 1 = 0 := by cases begun <;> rfl
  unfold pastGap?
  change Option.bind (t.gap? true ((outlineBetween begun).margin - 1)) _ = _
  rw [margin, passed]
  rfl

theorem step?_lineKey {t : Cursor} {q : Place} (plain : PlainText word) (start : q.column = 0)
    (gap : pastGap? (between tokens begun allowed t)
      = some (between tokens begun true ⟨q, word ++ ':' :: ' ' :: rest⟩)) :
    step? (between tokens begun allowed t)
      = some (behindKey tokens begun (q.past word).fresh q word
          ⟨q.past word, ':' :: ' ' :: rest⟩) := by
  obtain ⟨c, cs, begins, first⟩ := plain.exists_cons (':' :: ' ' :: rest)
  have deep : (outlineBetween begun).margin ≤ q.column + 1 := by
    cases begun <;> simp [outlineBetween, start]
  have colon : ∀ c cs, ':' :: ' ' :: rest = c :: cs → endsWord false c cs = true := by
    rintro c cs ⟨⟩
    rfl
  have noted : noteKey (between tokens begun true ⟨q, word ++ ':' :: ' ' :: rest⟩)
      = { between tokens begun true ⟨q, word ++ ':' :: ' ' :: rest⟩ with
          key := some ⟨tokens.length, q, begun⟩ } := by
    cases begun <;> simp [noteKey, candidate, between, outlineBetween, inFlow, column,
      Cursor.column, Outline.inBlock, start]
  have settled : (outlineBetween begun).settled = outlineBetween begun := by cases begun <;> rfl
  rw [step?_of_pastGap gap (.inr rfl) begins (begins ▸ plain.unmarked _) deep,
    token?_of_plainText plain begins, plain?, noted]
  change Option.bind (Cursor.plain? false (outlineBetween begun).settled.margin
    ⟨q, word ++ ':' :: ' ' :: rest⟩) _ = _
  rw [plain?_append plain colon rfl q (.inl rfl)]
  simp [settle, settled, between, behindKey, allowKey, moveTo, emit]

theorem step?_lineColon (allowed : Bool) (word rest : List Char) {p q : Place}
    (start : q.column = 0) (line : q.line = p.line) (near : p.index ≤ q.index + 1024) :
    step? (behindKey tokens begun allowed q word ⟨p, ':' :: ' ' :: rest⟩)
      = some (behindColon (tokens ++ opening begun ++ [.key, .scalar .plain (.ofList word), .value])
          ⟨p.after ':', ' ' :: rest⟩) := by
  have deep : (outlineBetween begun).margin ≤ p.column + 1 := by
    cases begun <;> simp [outlineBetween]
  have timely : Candidate.isStale ⟨tokens.length, q, begun⟩ p = false := by
    simp [Candidate.isStale, line, near]
  have read : step? (behindKey tokens begun allowed q word ⟨p, ':' :: ' ' :: rest⟩)
      = valueMark? (behindKey tokens begun allowed q word ⟨p, ':' :: ' ' :: rest⟩) :=
    step?_of_token (s := behindKey tokens begun allowed q word ⟨p, ':' :: ' ' :: rest⟩) (c := ':')
      rfl rfl (by decide) (.inr timely) (unmarked_of_ne (by decide) (by decide) (by decide) _) deep
  have apart : isApart ⟨p.after ':', ' ' :: rest⟩ = true := rfl
  rw [read, valueMark?]
  change (if !isApart ⟨p.after ':', ' ' :: rest⟩ then none else _) = _
  rw [apart]
  cases begun
  all_goals
    simp [behindKey, behindColon, insert, beginBlock, inFlow, outlineBetween, Outline.makeRoom,
      start, Outline.begin, Reading.setApart, Outline.setApart, Outline.inBlock, allowKey, moveTo,
      emit, opening, Cursor.next, Cursor.advance]

theorem step?_lineValue {ls : List Line} {p : Place} (plain : PlainText word)
    (lines : ∀ l ∈ ls, l.Plain) :
    ∃ t, Resumes ls t.place.fresh t ∧ t.rest.length ≤ (after ls).length ∧
      step? (behindColon tokens ⟨p, ' ' :: (word ++ after ls)⟩)
        = some (between (tokens ++ [.scalar .plain (.ofList word)]) true t.place.fresh t) := by
  obtain ⟨c, cs, begins, first⟩ := plain.exists_cons (after ls)
  have passed : Cursor.gap? true 1 ⟨p, ' ' :: (word ++ after ls)⟩
      = some (.blanks [' '], ⟨p.after ' ', word ++ after ls⟩) := by
    rw [begins]
    exact pastGap?_of_content 1 (isGap_of_isPlainChar first) (.inr (ne_of_isPlainChar first rfl))
  have gap : pastGap? (behindColon tokens ⟨p, ' ' :: (word ++ after ls)⟩)
      = some (behindColon tokens ⟨p.after ' ', word ++ after ls⟩) := by
    have sameLine : (p.after ' ').line = p.line := rfl
    unfold pastGap?
    change Option.bind (Cursor.gap? true 1 ⟨p, ' ' :: (word ++ after ls)⟩) _ = _
    rw [passed]
    simp [behindColon, moveTo, allowKey, sameLine]
  have deep : 2 ≤ (p.after ' ').column + 1 := Nat.le_add_left 2 p.column
  have read : step? (behindColon tokens ⟨p, ' ' :: (word ++ after ls)⟩)
      = plain? (behindColon tokens ⟨p.after ' ', word ++ after ls⟩) := by
    rw [step?_of_pastGap gap (.inr rfl) begins (begins ▸ plain.unmarked _) deep,
      token?_of_plainText plain begins]
  obtain ⟨t, resumes, shorter, scalar⟩ := exists_plain?_before plain lines (p.after ' ')
  refine ⟨t, resumes, shorter, ?_⟩
  rw [read]
  change Option.bind (Cursor.plain? false 1 ⟨p.after ' ', word ++ after ls⟩) _ = _
  rw [scalar]
  rfl

/-! ### Entries -/

/-- The reading stands before the next entry of lines, behind these tokens. -/
def Ready (tokens : List Token) (begun : Bool) (ls : List Line) (s : Reading) : Prop :=
  ∃ allowed t, s = between tokens begun allowed t ∧ Resumes ls allowed t

/-- An entry is read as its four tokens. -/
theorem leads_line {w : Written} {ls : List Line} {s : Reading} (plain : w.Plain)
    (lines : ∀ l ∈ ls, l.Plain) (ready : Ready tokens begun (.entry w :: ls) s) :
    ∃ t, Leads s t ∧ Ready (tokens ++ opening begun ++ w.tokens .plain) true ls t := by
  obtain ⟨allowed, t, rfl, resumes⟩ := ready
  have text : coming (.entry w :: ls) = w.key ++ ':' :: ' ' :: (w.value ++ after ls) := by
    simp [coming, Line.text]
  obtain ⟨q, allowed', gap, place⟩ := pastGap?_between tokens begun resumes
  obtain ⟨start, rfl⟩ := place (by simp [text])
  rw [text] at gap
  have longer : (w.key ++ ':' :: ' ' :: (w.value ++ after ls)).length ≤ t.rest.length := by
    obtain ⟨gap, q, passed, -⟩ := resumes
    rw [← text]
    exact length_pastGap?_le passed
  have some := List.length_pos_iff.2 plain.key.ne_nil
  have place := Place.past_of_line
    (fun h => by cases isGap_of_isPlainChar (plain.key.1 _ h) : '\n' ∉ w.key) q
  have sameLine : q.line = (q.past w.key).line := by rw [place]
  have near : (q.past w.key).index ≤ q.index + 1024 := by
    rw [place]
    exact Nat.add_le_add_left plain.short _
  obtain ⟨t', resumes, shorter, value⟩ := step?_lineValue
    (tokens ++ opening begun ++ [.key, .scalar .plain (.ofList w.key), .value])
    (p := (q.past w.key).after ':') plain.value lines
  have first : Leads _ _ := .step (step?_lineKey tokens begun plain.key start gap)
    (by simp [behindKey]) (by simp [behindKey, between] at longer ⊢; omega)
  have second : Leads _ _ := .step (step?_lineColon tokens begun (q.past w.key).fresh w.key
    (w.value ++ after ls) start sameLine near) (by simp [behindColon])
    (by simp [behindKey, behindColon])
  have third : Leads _ _ := .step value (by simp [between]) (by simp [between, behindColon]; omega)
  exact ⟨_, (first.trans second).trans third, _, t', by simp [Written.tokens], resumes⟩

/-- The tokens of some entries. -/
def blockTokens (begun : Bool) : List Written → List Token
  | [] => []
  | w :: ws => opening begun ++ w.tokens .plain ++ blockTokens true ws

/-- The entries of a mapping are read in order. -/
theorem leads_lines {ls : List Line} {s : Reading} (lines : ∀ l ∈ ls, l.Plain)
    (ready : Ready tokens begun ls s) :
    ∃ t, Leads s t ∧
      Ready (tokens ++ blockTokens begun (entries ls)) (begun || !(entries ls).isEmpty) [] t := by
  induction ls generalizing tokens begun s with
  | nil => exact ⟨s, .refl s, by simpa [entries, blockTokens] using ready⟩
  | cons l ls ih =>
    have others : ∀ l ∈ ls, l.Plain := fun l hl => lines l (List.mem_cons_of_mem _ hl)
    cases l with
    | filler blanks comment => exact ih tokens begun others ready
    | entry w =>
      obtain ⟨plain⟩ := lines _ List.mem_cons_self
      obtain ⟨t, first, ready⟩ := leads_line tokens begun plain others ready
      obtain ⟨u, later, ready⟩ := ih _ _ others ready
      exact ⟨u, first.trans later, by simpa [entries, blockTokens] using ready⟩

/-- At the end of the lines the mapping ends. -/
theorem step?_of_ready {s : Reading} (ready : Ready tokens begun [] s) :
    ∃ u, s.step? = some u ∧
      u.tokens = tokens ++ (if begun then [.blockEnd] else []) ++ [.finish] := by
  obtain ⟨allowed, t, rfl, resumes⟩ := ready
  obtain ⟨q, allowed', gap, -⟩ := pastGap?_between tokens begun resumes
  have deep : (outlineBetween begun).margin ≤ q.column + 1 := by
    cases begun <;> simp [outlineBetween]
  obtain ⟨u, last, whole⟩ := step?_of_end gap rfl rfl rfl deep
  refine ⟨u, last, whole.trans ?_⟩
  cases begun <;> rfl

end Reading

/-- The first entry comes behind the lines before it. -/
theorem resumes_start {ls : List Line} (lines : ∀ l ∈ ls, l.Plain) :
    Resumes ls true (.start (blockText ls)) := by
  cases ls with
  | nil => exact ⟨.blanks [], {}, rfl, fun some => absurd rfl some⟩
  | cons l ls =>
    have first := lines l List.mem_cons_self
    have others : ∀ l ∈ ls, l.Plain := fun l hl => lines l (List.mem_cons_of_mem _ hl)
    cases first with
    | @entry w written =>
      exact ⟨.blanks [], {}, pastGap?_entry written ls _ _, fun _ => ⟨rfl, .inl rfl⟩⟩
    | filler blank line =>
      obtain ⟨stretch, gap, q, -, passed⟩ := exists_pastGap?_filler (.filler blank line)
        (by simp) (after ls) (.blanks []) {}
      obtain ⟨gap', q', reached, place⟩ := exists_gap_after others gap q
      exact ⟨gap', q', passed.trans reached, fun some => ⟨(place some).1, .inl rfl⟩⟩

open Reading in
/-- The tokens of a text that consists of a block mapping. -/
theorem tokens_blockText {ls : List Line} (lines : ∀ l ∈ ls, l.Plain) :
    tokens (blockText ls) = blockTokens false (entries ls)
      ++ (if (entries ls).isEmpty then [.finish] else [.blockEnd, .finish]) := by
  have ready : Ready [] false ls { cursor := .start (blockText ls) } :=
    ⟨true, _, rfl, resumes_start lines⟩
  obtain ⟨t, leads, ready⟩ := leads_lines _ _ lines ready
  obtain ⟨u, last, whole⟩ := step?_of_ready _ _ ready
  rw [leads.tokens_eq last (by rw [whole, List.getLast?_concat]), whole]
  cases entries ls <;> simp

end CallToAction.Yaml
