import CallToAction.Yaml.Lexeme
import Mathlib.Tactic.SplitIfs

/-!
# Scanning step by step

A run over a text is a chain of steps, each of which shortens the text.  Where the next token stands
right at the cursor, a step is the reading of that token.  Words and numbers are read as they stand.

* `Place.past_of_line`, `span_append`: the place behind a run of characters;
* `Reading.Leads`: a run from one reading to another;
* `Reading.step?_of_token`: a step, where no gap stands before the token;
* `plain?_append`, `quoted?_append`: the scalars that words are read as.
-/

namespace CallToAction.Yaml

/-! ### Places -/

/-- The place behind some characters. -/
def Place.past (p : Place) (cs : List Char) : Place := cs.foldl (fun p c => p.after c) p

theorem Place.past_of_line {cs : List Char} (line : '\n' ∉ cs) (p : Place) :
    p.past cs = ⟨p.index + cs.length, p.line, p.column + cs.length, p.fresh && cs.all isBlank⟩ := by
  induction cs generalizing p with
  | nil => simp [past]
  | cons c cs ih =>
    obtain ⟨other, line⟩ := not_or.1 (mt List.mem_cons.2 line)
    have after : p.after c = ⟨p.index + 1, p.line, p.column + 1, p.fresh && isBlank c⟩ :=
      if_neg (Ne.symm other)
    change (p.after c).past cs = _
    rw [ih line, after]
    simp only [List.all_cons, List.length_cons, Bool.and_assoc, Nat.add_assoc, Nat.add_comm 1]

variable {ends : Char → List Char → Bool} {word rest : List Char}

/-- A run of characters ends where it has to. -/
theorem span_append (inside : ∀ c ∈ word, ∀ cs, ends c cs = false)
    (stop : ∀ c cs, rest = c :: cs → ends c cs = true) (p : Place) :
    span ends p (word ++ rest) = (word, ⟨p.past word, rest⟩) := by
  induction word generalizing p with
  | nil =>
    cases rest with
    | nil => rfl
    | cons c cs => rw [List.nil_append, span, if_pos (stop c cs rfl)]; rfl
  | cons c word ih =>
    rw [List.cons_append, span, if_neg (by simp [inside c List.mem_cons_self]),
      ih (fun d hd => inside d (List.mem_cons_of_mem _ hd))]
    rfl

/-- No blanks are taken before other characters. -/
theorem take_isBlank {p : Place} (h : ∀ c ∈ rest.head?, isBlank c = false) :
    Cursor.take isBlank ⟨p, rest⟩ = ([], ⟨p, rest⟩) :=
  @span_append (fun c _ => !isBlank c) [] rest (by simp) (by rintro c cs rfl; simp [h c rfl]) p

theorem isApart_of_head {p : Place} (h : ∀ c ∈ rest.head?, isBlank c = false) :
    Reading.isApart ⟨p, rest⟩ = true := by
  rw [Reading.isApart, take_isBlank h]
  rfl

theorem pastComment?_eq_self {p : Place} (h : ∀ c ∈ rest.head?, isBlank c = false ∧ c ≠ '#') :
    Cursor.pastComment? ⟨p, rest⟩ = some ⟨p, rest⟩ := by
  unfold Cursor.pastComment? Cursor.pastBlanks
  rw [take_isBlank fun c hc => (h c hc).1]
  dsimp only
  split
  · exact absurd rfl (h '#' rfl).2
  · rfl

/-- A gap ends before a character of a token. -/
theorem pastGap?_of_content {gap : Gap} {p : Place} {c : Char} {cs : List Char} {comments : Bool}
    (margin : Nat) (apart : isGap c = false) (content : comments = false ∨ c ≠ '#') :
    pastGap? comments margin .free gap p (c :: cs) = some (gap, ⟨p, c :: cs⟩) := by
  obtain ⟨blank, line⟩ := Bool.or_eq_false_iff.1 apart
  have tab : c ≠ '\t' := by
    rintro rfl
    cases blank
  have comment : (c = '#' && comments) = false := by
    rcases content with rfl | other <;> simp_all
  rw [pastGap?, if_neg (by simpa using line)]
  simp [tab, blank, comment]

/-! ### Words -/

/-- A character of words, a point or a plus sign: nothing special in a scalar. -/
def isPlainChar (c : Char) : Bool := isWordChar c || c == '.' || c == '+'

theorem ne_of_isPlainChar {c d : Char} (h : isPlainChar c = true) (other : isPlainChar d = false) :
    c ≠ d := by
  rintro rfl
  cases h.symm.trans other

theorem isBlank_of_isPlainChar {c : Char} (h : isPlainChar c = true) : isBlank c = false := by
  simp [isBlank, ne_of_isPlainChar h (d := ' ') rfl, ne_of_isPlainChar h (d := '\t') rfl]

theorem isGap_of_isPlainChar {c : Char} (h : isPlainChar c = true) : isGap c = false := by
  simp [isGap, isBlank_of_isPlainChar h, ne_of_isPlainChar h (d := '\n') rfl]

theorem isFlowMark_of_isPlainChar {c : Char} (h : isPlainChar c = true) : isFlowMark c = false := by
  simp [isFlowMark, ne_of_isPlainChar h (d := ',') rfl, ne_of_isPlainChar h (d := '[') rfl,
    ne_of_isPlainChar h (d := ']') rfl, ne_of_isPlainChar h (d := '\x7b') rfl,
    ne_of_isPlainChar h (d := '\x7d') rfl]

theorem isGap_of_isFlowMark {c : Char} (h : isFlowMark c = true) : isGap c = false := by
  simp only [isFlowMark, String.reduceToList, List.contains_eq_mem, List.mem_cons,
    List.not_mem_nil, or_false, decide_eq_true_eq] at h
  rcases h with rfl | rfl | rfl | rfl | rfl <;> rfl

theorem endsWord_of_isPlainChar {c : Char} (h : isPlainChar c = true) (flow : Bool)
    (cs : List Char) : endsWord flow c cs = false := by
  simp [endsWord, isGap_of_isPlainChar h, isFlowMark_of_isPlainChar h,
    ne_of_isPlainChar h (d := ':') rfl]

/-- A scalar that needs no quotes: it begins with a letter or a digit, or with a hyphen before
one. -/
def PlainText (cs : List Char) : Prop :=
  (∀ c ∈ cs, isPlainChar c = true) ∧
    ∃ sign c rest, cs = sign ++ c :: rest ∧ (sign = [] ∨ sign = ['-']) ∧ c.isAlphanum = true

theorem isPlainChar_of_isAlphanum {c : Char} (h : c.isAlphanum = true) : isPlainChar c = true := by
  simp [isPlainChar, isWordChar, h]

/-- A scalar that needs no quotes does not begin with a hyphen that stands alone. -/
theorem PlainText.not_isLoneHyphen {word : List Char} (h : PlainText word) (flow : Bool)
    (rest : List Char) : isLoneHyphen flow (word ++ rest) = false := by
  obtain ⟨-, sign, c, more, rfl, rfl | rfl, begins⟩ := h
  · unfold isLoneHyphen
    split
    · rename_i eq
      cases eq
      cases begins
    · rfl
  · simp [isLoneHyphen, atFlowMark, isFlowMark_of_isPlainChar (isPlainChar_of_isAlphanum begins)]

theorem PlainText.exists_cons {word : List Char} (h : PlainText word) (rest : List Char) :
    ∃ c cs, word ++ rest = c :: cs ∧ isPlainChar c = true := by
  obtain ⟨plain, sign, c, more, rfl, rfl | rfl, -⟩ := h
  · exact ⟨c, more ++ rest, rfl, plain c (by simp)⟩
  · exact ⟨'-', c :: (more ++ rest), rfl, rfl⟩

theorem PlainText.head {word : List Char} (h : PlainText word) (rest : List Char) :
    ∀ c ∈ (word ++ rest).head?, isPlainChar c = true := by
  obtain ⟨c, cs, begins, plain⟩ := h.exists_cons rest
  rw [begins]
  rintro d ⟨⟩
  exact plain

theorem PlainText.not_atGap {word : List Char} (h : PlainText word) (rest : List Char) :
    atGap (word ++ rest) = false := by
  obtain ⟨c, cs, begins, plain⟩ := h.exists_cons rest
  rw [begins]
  exact isGap_of_isPlainChar plain

theorem PlainText.ne_nil {word : List Char} (h : PlainText word) : word ≠ [] := by
  obtain ⟨-, sign, c, more, rfl, -, -⟩ := h
  simp

/-- A key and a value as they are written. -/
structure Written where
  key : List Char
  value : List Char

namespace Written

/-- Neither of them needs quotes, and the key is short enough to be one. -/
structure Plain (w : Written) : Prop where
  key : PlainText w.key
  short : w.key.length ≤ 1024
  value : PlainText w.value

/-- The tokens of an entry of a mapping, the key of which is written in a style. -/
def tokens (w : Written) (key : Style) : List Token :=
  [.key, .scalar key (.ofList w.key), .value, .scalar .plain (.ofList w.value)]

end Written

/-! ### Scalars -/

theorem quotedChars?_cons {margin steps : Nat} {flow : Bool} {c : Char} {cs : List Char}
    (plain : isPlainChar c = true) (p : Place) :
    quotedChars? .double flow margin (steps + 1) ⟨p, c :: cs⟩
      = (quotedChars? .double flow margin steps ⟨p.after c, cs⟩).map
          fun read => (c :: read.1, read.2) := by
  have quote := ne_of_isPlainChar plain (d := '"') rfl
  have slash := ne_of_isPlainChar plain (d := '\\') rfl
  have gap := isGap_of_isPlainChar plain
  have read : quotedChars? .double flow margin (steps + 1) ⟨p, c :: cs⟩
      = (quotedChars? .double flow margin steps ⟨p.after c, cs⟩).bind
        fun read => some (c :: read.1, read.2) := by
    simp [quotedChars?, quote, slash, gap, Cursor.next, Cursor.advance]
  rw [read, Option.map_eq_bind]
  rfl

/-- Without special characters, the characters in double quotes stand for themselves. -/
theorem quotedChars?_append {margin : Nat} {flow : Bool} {word : List Char}
    (plain : ∀ c ∈ word, isPlainChar c = true) (rest : List Char) (steps : Nat) (p : Place) :
    quotedChars? .double flow margin (steps + word.length + 1) ⟨p, word ++ '"' :: rest⟩
      = some (word, ⟨(p.past word).after '"', rest⟩) := by
  induction word generalizing p with
  | nil => rfl
  | cons c word ih =>
    rw [List.length_cons, ← Nat.add_assoc, List.cons_append,
      quotedChars?_cons (plain c List.mem_cons_self),
      ih (fun d hd => plain d (List.mem_cons_of_mem _ hd))]
    rfl

/-- The scalar that is read of a word in double quotes, before a colon. -/
theorem quoted?_append {margin : Nat} {word : List Char}
    (plain : ∀ c ∈ word, isPlainChar c = true) (rest : List Char) (p : Place) :
    Cursor.quoted? .double true margin ⟨p, '"' :: (word ++ '"' :: ':' :: rest)⟩
      = some (word, ⟨((p.after '"').past word).after '"', ':' :: rest⟩) := by
  have enough : ('"' :: (word ++ '"' :: ':' :: rest)).length + 1
      = (rest.length + 3) + word.length + 1 := by
    simp only [List.length_cons, List.length_append]
    omega
  have next : Cursor.next ⟨p, '"' :: (word ++ '"' :: ':' :: rest)⟩
      = ⟨p.after '"', word ++ '"' :: ':' :: rest⟩ := rfl
  have colon : ∀ c ∈ (':' :: rest).head?, isBlank c = false ∧ c ≠ '#' := by
    rintro c ⟨⟩
    decide
  rw [Cursor.quoted?, enough, next, quotedChars?_append plain, Option.bind_eq_bind,
    Option.bind_some]
  dsimp only
  rw [pastComment?_eq_self colon]
  rfl

/-- A word is read up to a character that ends it. -/
theorem plainWords?_append {margin steps : Nat} {flow : Bool} (plain : PlainText word)
    (stop : ∀ c cs, rest = c :: cs → endsWord flow c cs = true) (p : Place) :
    plainWords? flow margin (steps + 1) ⟨p, word ++ rest⟩ =
      if rest.isEmpty || !atGap rest then some (word, ⟨p.past word, rest⟩)
      else (Cursor.gap? false margin ⟨p.past word, rest⟩).bind fun (gap, s) =>
        if plainGoesOn flow margin s then
          (plainWords? flow margin steps s).map fun (words, s) => (word ++ gap.text ++ words, s)
        else some (word, s) := by
  have run := span_append (fun c hc cs => endsWord_of_isPlainChar (plain.1 c hc) flow cs) stop p
  rw [plainWords?, if_neg (by simp [plain.not_isLoneHyphen]), Cursor.span, run]
  simp only [Option.bind_eq_bind, Option.map_eq_bind]
  rfl

variable {margin : Nat} {flow : Bool}

/-- A plain scalar is read up to a mark. -/
theorem plain?_append (plain : PlainText word)
    (stop : ∀ c cs, rest = c :: cs → endsWord flow c cs = true)
    (touching : rest.isEmpty || !atGap rest) (p : Place) (deep : flow = false ∨ margin ≤ p.column) :
    Cursor.plain? flow margin ⟨p, word ++ rest⟩ = some (word, ⟨p.past word, rest⟩) := by
  have inside : (flow && decide (p.column < margin)) = false := by
    rcases deep with rfl | deep
    · rfl
    · simpa using fun _ => deep
  rw [Cursor.plain?, Cursor.column, inside, if_neg Bool.false_ne_true,
    plainWords?_append plain stop, if_pos touching]

/-- A plain scalar is read up to a gap behind which it does not go on. -/
theorem plain?_append_gap {gap : Gap} {t : Cursor} (plain : PlainText word)
    (apart : atGap rest = true) (some : rest ≠ []) {p : Place}
    (next : Cursor.gap? false margin ⟨p.past word, rest⟩ = .some (gap, t))
    (ended : plainGoesOn false margin t = false) :
    Cursor.plain? false margin ⟨p, word ++ rest⟩ = .some (word, t) := by
  have stop : ∀ c cs, rest = c :: cs → endsWord false c cs = true := by
    rintro c cs rfl
    have : isGap c = true := apart
    simp [endsWord, this]
  rw [Cursor.plain?, plainWords?_append plain stop, next]
  simp [apart, some, ended]

/-! ### Steps -/

theorem isRule_of_ne {mark c : Char} (h : c ≠ mark) (cs : List Char) :
    isRule mark (c :: cs) = false := by
  unfold isRule
  split
  · rename_i eq
    cases eq
    simp [h]
  · rfl

/-- No mark of a document begins with the text. -/
def Unmarked (cs : List Char) : Prop :=
  cs.head? ≠ some '%' ∧ isRule '-' cs = false ∧ isRule '.' cs = false

theorem unmarked_of_ne {c : Char} (percent : c ≠ '%') (hyphen : c ≠ '-') (point : c ≠ '.')
    (cs : List Char) : Unmarked (c :: cs) :=
  ⟨by simpa using percent, isRule_of_ne hyphen cs, isRule_of_ne point cs⟩

theorem PlainText.unmarked {word : List Char} (h : PlainText word) (rest : List Char) :
    Unmarked (word ++ rest) := by
  obtain ⟨-, sign, c, more, rfl, rfl | rfl, begins⟩ := h
  · refine unmarked_of_ne ?_ ?_ ?_ _ <;> (rintro rfl; cases begins)
  · refine ⟨by simp, ?_, isRule_of_ne (by decide) _⟩
    have : c ≠ '-' := by
      rintro rfl
      cases begins
    have : ∀ cs, isRule '-' ('-' :: c :: cs) = false := by
      intro cs
      cases cs <;> simp [isRule, this]
    simpa using this _

namespace Reading

variable {s t u : Reading}

theorem pastGap?_eq_self {c : Char} {cs : List Char} (rest : s.cursor.rest = c :: cs)
    (apart : isGap c = false) (content : c ≠ '#') : s.pastGap? = some s := by
  obtain ⟨⟨p, text⟩, tokens, outline, key, outerKeys, keyAllowed, adjacent⟩ := s
  cases rest
  simp [pastGap?, Cursor.gap?, pastGap?_of_content _ apart (.inr content), moveTo, allowKey]

theorem pastGap?_of_end (rest : s.cursor.rest = []) : s.pastGap? = some s := by
  obtain ⟨⟨p, text⟩, tokens, outline, key, outerKeys, keyAllowed, adjacent⟩ := s
  cases rest
  simp [pastGap?, Cursor.gap?, Yaml.pastGap?, moveTo, allowKey]

theorem pastComment?_eq_self (h : ∀ c ∈ s.cursor.rest.head?, isBlank c = false ∧ c ≠ '#') :
    s.pastComment? = some s := by
  rw [pastComment?, Yaml.pastComment?_eq_self h]
  rfl

theorem closeTo_eq_self {margin : Nat} (deep : s.outline.margin ≤ margin) :
    s.closeTo margin = s := by
  obtain ⟨cursor, tokens, ⟨least, levels⟩, key, outerKeys, keyAllowed, adjacent⟩ := s
  have stays : Outline.leave margin least levels = (⟨least, levels⟩, 0) := by
    cases levels with
    | nil => rfl
    | cons level levels => rw [Outline.leave, if_pos deep]
  simp [closeTo, Outline.closeTo, stays]

theorem dropStaleKey?_eq_self (h : s.inFlow = true ∨ s.key.any (·.isStale s.cursor.place) = false) :
    s.dropStaleKey? = some s := by
  rcases h with h | h <;> simp [dropStaleKey?, h]

/-- A step reads the token behind the gap. -/
theorem step?_of_pastGap {c : Char} {cs : List Char} (gap : s.pastGap? = some t)
    (key : t.inFlow = true ∨ t.key.any (·.isStale t.cursor.place) = false)
    (rest : t.cursor.rest = c :: cs) (unmarked : Unmarked (c :: cs))
    (deep : t.outline.margin ≤ t.column + 1) : s.step? = t.token? c cs := by
  obtain ⟨percent, start, ending⟩ := unmarked
  have shallow : t.isShallow c = false := by
    simp [isShallow, Nat.not_lt.2 deep]
  have percent : c ≠ '%' := by simpa using percent
  simp only [step?, gap, Option.bind_eq_bind, Option.bind_some, dropStaleKey?_eq_self key,
    closeTo_eq_self deep, rest, start, ending, shallow]
  simp [percent]

/-- A step reads the token at the cursor. -/
theorem step?_of_token {c : Char} {cs : List Char} (rest : s.cursor.rest = c :: cs)
    (apart : isGap c = false) (content : c ≠ '#')
    (key : s.inFlow = true ∨ s.key.any (·.isStale s.cursor.place) = false)
    (unmarked : Unmarked (c :: cs)) (deep : s.outline.margin ≤ s.column + 1) :
    s.step? = s.token? c cs :=
  step?_of_pastGap (pastGap?_eq_self rest apart content) key rest unmarked deep

/-- A scalar without quotes begins with a letter, a digit or a hyphen before one. -/
theorem token?_of_plainText {word rest : List Char} {c : Char} {cs : List Char}
    (plain : PlainText word) (begins : word ++ rest = c :: cs) : s.token? c cs = s.plain? := by
  obtain ⟨-, sign, d, more, rfl, rfl | rfl, first⟩ := plain
  · cases begins
    unfold token?
    split <;> first
      | rfl
      | cases first
  · cases begins
    have : isGap d = false := isGap_of_isPlainChar (isPlainChar_of_isAlphanum first)
    simp [token?, atGap, this]

/-- At the end of the text all blocks end. -/
theorem step?_of_end (gap : s.pastGap? = some t) (rest : t.cursor.rest = [])
    (out : t.inFlow = false) (key : t.key.any (·.required) = false)
    (deep : t.outline.margin ≤ t.column + 1) :
    ∃ u, s.step? = some u ∧
      u.tokens = t.tokens ++ List.replicate (t.outline.closeTo 0).2 .blockEnd ++ [.finish] := by
  obtain ⟨key', dropped, unneeded⟩ : ∃ key', t.dropStaleKey? = some { t with key := key' } ∧
      key'.any (·.required) = false := by
    unfold dropStaleKey?
    split
    · exact ⟨none, by simp [dropKey?, key], rfl⟩
    · exact ⟨t.key, rfl, key⟩
  have stays : closeTo (t.column + 1) { t with key := key' } = { t with key := key' } :=
    closeTo_eq_self deep
  have out : inFlow { t with key := key' } = false := out
  have ended : endNodes? { t with key := key' } = some { t with
      key := none
      keyAllowed := false
      outline := (t.outline.closeTo 0).1
      tokens := t.tokens ++ List.replicate (t.outline.closeTo 0).2 .blockEnd } := by
    simp [endNodes?, closeTo, out, dropKey?, unneeded, allowKey]
  have finished : step? s = (endNodes? { t with key := key' }).map (emit .finish) := by
    simp only [step?, gap, Option.bind_eq_bind, Option.bind_some, dropped, stays, rest, finish?,
      out, Bool.false_eq_true, if_false, Option.map_eq_bind]
    rfl
  rw [ended] at finished
  exact ⟨_, finished, rfl⟩

/-! ### Runs -/

/-- A run leads from one reading to another, in no more steps than it reads characters. -/
def Leads (s t : Reading) : Prop :=
  ∃ steps, steps + t.cursor.rest.length ≤ s.cursor.rest.length ∧
    ∀ n, run (n + steps) s = run n t

theorem Leads.refl (s : Reading) : Leads s s := ⟨0, by simp, fun n => rfl⟩

theorem Leads.trans (first : Leads s t) (second : Leads t u) : Leads s u := by
  obtain ⟨m, short, first⟩ := first
  obtain ⟨n, short', second⟩ := second
  refine ⟨n + m, by omega, fun k => ?_⟩
  rw [← Nat.add_assoc, first, second]

theorem Leads.step (h : s.step? = some t) (unfinished : t.tokens.getLast? ≠ some .finish)
    (shorter : t.cursor.rest.length < s.cursor.rest.length) : Leads s t := by
  refine ⟨1, by omega, fun n => ?_⟩
  rw [run, h]
  exact if_neg unfinished

/-- The tokens of a text are those that a run leads to. -/
theorem Leads.tokens_eq {cs : List Char} (h : Leads { cursor := .start cs } t)
    (last : t.step? = some u) (finished : u.tokens.getLast? = some .finish) :
    Yaml.tokens cs = u.tokens := by
  obtain ⟨steps, short, reached⟩ := h
  obtain ⟨n, enough⟩ : ∃ n, cs.length + 1 = (n + 1) + steps := by
    have : (Cursor.start cs).rest.length = cs.length := rfl
    exact ⟨cs.length - steps, by dsimp only at short; omega⟩
  rw [Yaml.tokens, enough, reached, run, last]
  exact if_pos finished

end Reading

end CallToAction.Yaml
