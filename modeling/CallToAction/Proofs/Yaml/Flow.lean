import CallToAction.Proofs.Yaml.Scanning

/-!
# The tokens of a flow mapping

A text may be a single flow mapping from words in double quotes to scalars without quotes, with no
gap anywhere.  A colon may touch a quoted key, so each of its entries is read as the mark of a key,
the key, the mark of a value and the value.

* `Reading.inMapping`: a reading within the mapping;
* `leads_flowEntry`: an entry is read as its four tokens;
* `tokens_flowText`: the tokens of the text.
-/

namespace CallToAction.Yaml

/-! ### Texts and their tokens -/

/-- An entry of a flow mapping. -/
def Written.flowText (w : Written) : List Char := '"' :: (w.key ++ '"' :: ':' :: w.value)

/-- The entries of a flow mapping, with a comma between two of them. -/
def flowText : List Written → List Char
  | [] => []
  | [w] => w.flowText
  | w :: ws => w.flowText ++ ',' :: flowText ws

/-- Their tokens. -/
def flowTokens : List Written → List Token
  | [] => []
  | [w] => w.tokens .quoted
  | w :: ws => w.tokens .quoted ++ .comma :: flowTokens ws

namespace Reading

/-- A reading within the flow mapping that a text consists of. -/
def inMapping (tokens : List Token) (key : Option Candidate) (keyAllowed : Bool) (adjacent : Nat)
    (cursor : Cursor) : Reading where
  cursor
  tokens
  key
  outerKeys := [some ⟨0, {}, false⟩]
  keyAllowed
  adjacent

/-- A reading behind the flow mapping that a text consists of. -/
def behindMapping (tokens : List Token) (adjacent : Nat) (p : Place) : Reading where
  cursor := ⟨p, []⟩
  tokens
  key := some ⟨0, {}, false⟩
  keyAllowed := false
  adjacent

variable (tokens : List Token) (key : Option Candidate) (keyAllowed : Bool) (adjacent : Nat)
  (p : Place) {word rest : List Char}

theorem step?_inMapping {c : Char} {cs : List Char} (begins : rest = c :: cs)
    (apart : isGap c = false) (content : c ≠ '#') (unmarked : Unmarked rest) :
    (inMapping tokens key keyAllowed adjacent ⟨p, rest⟩).step?
      = (inMapping tokens key keyAllowed adjacent ⟨p, rest⟩).token? c cs := by
  subst begins
  exact step?_of_token rfl apart content (.inl rfl) unmarked (Nat.zero_le _)

theorem step?_brace (h : ∀ c ∈ rest.head?, isBlank c = false ∧ c ≠ '#') :
    step? { cursor := .start ('\x7b' :: rest) }
      = some (inMapping [.flowStart .mapping] none true 0 ⟨Place.after '\x7b' {}, rest⟩) := by
  have opened : step? { cursor := .start ('\x7b' :: rest) }
      = openFlow? .mapping { cursor := .start ('\x7b' :: rest) } :=
    step?_of_token (c := '\x7b') rfl (by decide) (by decide) (.inr rfl)
      (unmarked_of_ne (by decide) (by decide) (by decide) _) (Nat.zero_le _)
  rw [opened]
  change Option.bind (pastComment? _) _ = _
  rw [pastComment?_eq_self h]
  rfl

theorem step?_quotedKey (plain : ∀ c ∈ word, isPlainChar c = true) (rest : List Char) :
    step? (inMapping tokens key true adjacent ⟨p, '"' :: (word ++ '"' :: ':' :: rest)⟩)
      = some (inMapping (tokens ++ [.scalar .quoted (.ofList word)])
          (some ⟨tokens.length, p, false⟩) false (((p.after '"').past word).after '"').index
          ⟨((p.after '"').past word).after '"', ':' :: rest⟩) := by
  rw [step?_inMapping _ _ _ _ _ rfl (by decide) (by decide)
    (unmarked_of_ne (by decide) (by decide) (by decide) _)]
  change quoted? .double _ = _
  unfold quoted?
  change Option.bind (Cursor.quoted? _ _ _ _) _ = _
  change Option.bind (Cursor.quoted? .double true 0 ⟨p, _⟩) _ = _
  rw [quoted?_append plain rest p, Option.bind_some]
  change Option.bind (pastGap? _) _ = _
  rw [pastGap?_eq_self (c := ':') rfl (by decide) (by decide)]
  rfl

theorem step?_quotedColon (key : Candidate) (plain : PlainText word) (rest : List Char) :
    step? (inMapping tokens (some key) false p.index ⟨p, ':' :: (word ++ rest)⟩)
      = some (inMapping (tokens.take key.number ++ .key :: tokens.drop key.number ++ [.value]) none
          false p.index ⟨p.after ':', word ++ rest⟩) := by
  have apart : isApart ⟨p.after ':', word ++ rest⟩ = true :=
    isApart_of_head fun c hc => isBlank_of_isPlainChar (plain.head rest c hc)
  rw [step?_inMapping _ _ _ _ _ rfl (by decide) (by decide)
    (unmarked_of_ne (by decide) (by decide) (by decide) _)]
  change (if atGap (word ++ rest) then valueMark? _
    else if true && (atFlowMark (word ++ rest) || p.index == p.index) then tightValue? _ _
    else plain? _) = _
  rw [plain.not_atGap, if_neg Bool.false_ne_true, if_pos (by simp), tightValue?,
    if_neg (by simp [inMapping])]
  change (if !isApart ⟨p.after ':', word ++ rest⟩ then _ else _) = _
  rw [apart]
  rfl

theorem step?_flowValue (plain : PlainText word)
    (stop : ∀ c cs, rest = c :: cs → isFlowMark c = true) :
    step? (inMapping tokens key false adjacent ⟨p, word ++ rest⟩)
      = some (inMapping (tokens ++ [.scalar .plain (.ofList word)]) key (p.past word).fresh adjacent
          ⟨p.past word, rest⟩) := by
  obtain ⟨c, cs, begins, first⟩ := plain.exists_cons rest
  have ends : ∀ c cs, rest = c :: cs → endsWord true c cs = true := by
    intro c cs h
    simp [endsWord, stop c cs h]
  have touching : (rest.isEmpty || !atGap rest) = true := by
    cases rest with
    | nil => rfl
    | cons d ds => simp [atGap, isGap_of_isFlowMark (stop d ds rfl)]
  rw [step?_inMapping _ _ _ _ _ begins (isGap_of_isPlainChar first) (ne_of_isPlainChar first rfl)
    (plain.unmarked rest), token?_of_plainText plain begins]
  change Option.bind (Cursor.plain? true 0 ⟨p, word ++ rest⟩) _ = _
  rw [plain?_append plain ends touching p (.inr (Nat.zero_le _))]
  rfl

theorem step?_comma (h : ∀ c ∈ rest.head?, isBlank c = false ∧ c ≠ '#') :
    step? (inMapping tokens none keyAllowed adjacent ⟨p, ',' :: rest⟩)
      = some (inMapping (tokens ++ [.comma]) none true adjacent ⟨p.after ',', rest⟩) := by
  rw [step?_inMapping _ _ _ _ _ rfl (by decide) (by decide)
    (unmarked_of_ne (by decide) (by decide) (by decide) _)]
  change Option.bind (pastComment? _) _ = _
  rw [pastComment?_eq_self h]
  rfl

theorem step?_closing :
    step? (inMapping tokens none keyAllowed adjacent ⟨p, ['\x7d']⟩)
      = some (behindMapping (tokens ++ [.flowEnd .mapping]) adjacent (p.after '\x7d')) := by
  rw [step?_inMapping _ _ _ _ _ rfl (by decide) (by decide)
    (unmarked_of_ne (by decide) (by decide) (by decide) _)]
  have comment {s : Reading} (h : s.cursor.rest = []) : s.pastComment? = some s :=
    pastComment?_eq_self (by simp [h])
  change closeFlow? .mapping (inMapping tokens none keyAllowed adjacent ⟨p, ['\x7d']⟩) = _
  unfold closeFlow?
  change Option.bind (pastComment? _) _ = _
  rw [comment rfl]
  rfl

/-! ### Entries -/

/-- An entry is read as its four tokens. -/
theorem leads_flowEntry {w : Written} (plain : w.Plain)
    (stop : ∀ c cs, rest = c :: cs → isFlowMark c = true) :
    ∃ q allowed place, Leads (inMapping tokens none true adjacent ⟨p, w.flowText ++ rest⟩)
      (inMapping (tokens ++ w.tokens .quoted) none allowed place ⟨q, rest⟩) := by
  have text : w.flowText ++ rest = '"' :: (w.key ++ '"' :: ':' :: (w.value ++ rest)) := by
    simp [Written.flowText]
  have keyed (x : Token) : (tokens ++ [x]).take tokens.length
      ++ .key :: (tokens ++ [x]).drop tokens.length ++ [.value] = tokens ++ [.key, x, .value] := by
    simp
  have quoted : Leads _ _ := .step
    (step?_quotedKey tokens none adjacent p plain.key.1 (w.value ++ rest)) (by simp [inMapping])
    (by simp [inMapping]; omega)
  have colon : Leads _ _ := .step (step?_quotedColon (tokens ++ [.scalar .quoted (.ofList w.key)])
    (((p.after '"').past w.key).after '"') ⟨tokens.length, p, false⟩ plain.value rest)
    (by simp [inMapping]) (by simp [inMapping])
  rw [keyed] at colon
  have value : Leads _ _ := .step (step?_flowValue
    (tokens ++ [.key, .scalar .quoted (.ofList w.key), .value]) none
    (((p.after '"').past w.key).after '"').index
    ((((p.after '"').past w.key).after '"').after ':') plain.value stop)
    (by simp [inMapping]) (by simp [inMapping, plain.value.ne_nil, List.length_pos_iff])
  rw [text]
  have := (quoted.trans colon).trans value
  exact ⟨_, _, _, by simpa [Written.tokens] using this⟩

/-- The entries of a mapping are read in order. -/
theorem leads_flowEntries (ws : List Written) (w : Written) (plain : ∀ v ∈ w :: ws, v.Plain) :
    ∃ q allowed place,
      Leads (inMapping tokens none true adjacent ⟨p, flowText (w :: ws) ++ ['\x7d']⟩)
        (inMapping (tokens ++ flowTokens (w :: ws)) none allowed place ⟨q, ['\x7d']⟩) := by
  induction ws generalizing w tokens adjacent p with
  | nil =>
    exact leads_flowEntry tokens adjacent p (plain w List.mem_cons_self) (by rintro c cs ⟨⟩; decide)
  | cons next ws ih =>
    have quote : ∀ c ∈ (flowText (next :: ws) ++ ['\x7d']).head?, isBlank c = false ∧ c ≠ '#' := by
      cases ws <;> simp [flowText, Written.flowText, isBlank]
    have stop : ∀ c cs, ',' :: (flowText (next :: ws) ++ ['\x7d']) = c :: cs →
        isFlowMark c = true := by
      rintro c cs ⟨⟩
      decide
    obtain ⟨q, allowed, place, entry⟩ :=
      leads_flowEntry tokens adjacent p (plain w List.mem_cons_self) stop
    have comma : Leads _ _ := .step (step?_comma (tokens ++ w.tokens .quoted) allowed place q quote)
      (by simp [inMapping]) (by simp [inMapping])
    obtain ⟨q', allowed', place', others⟩ := ih (tokens ++ w.tokens .quoted ++ [.comma]) place
      (q.after ',') next fun v hv => plain v (List.mem_cons_of_mem _ hv)
    refine ⟨q', allowed', place', ?_⟩
    simpa [flowText, flowTokens] using (entry.trans comma).trans others

end Reading

open Reading in
/-- The tokens of a text that consists of a flow mapping. -/
theorem tokens_flowText {ws : List Written} (plain : ∀ w ∈ ws, w.Plain) :
    tokens ('\x7b' :: (flowText ws ++ ['\x7d']))
      = .flowStart .mapping :: (flowTokens ws ++ [.flowEnd .mapping, .finish]) := by
  have head : ∀ c ∈ (flowText ws ++ ['\x7d']).head?, isBlank c = false ∧ c ≠ '#' := by
    match ws with
    | [] | [_] | _ :: _ :: _ => simp [flowText, Written.flowText, isBlank]
  have brace : Leads _ _ := .step (step?_brace head) (by simp [inMapping])
    (by simp [inMapping, Cursor.start])
  obtain ⟨q, allowed, place, entries⟩ : ∃ q allowed place, Leads
      (inMapping [.flowStart .mapping] none true 0 ⟨Place.after '\x7b' {}, flowText ws ++ ['\x7d']⟩)
      (inMapping ([.flowStart .mapping] ++ flowTokens ws) none allowed place ⟨q, ['\x7d']⟩) := by
    cases ws with
    | nil => exact ⟨_, _, _, .refl _⟩
    | cons w ws => exact leads_flowEntries _ _ _ ws w plain
  have closing : Leads _ _ := .step
    (step?_closing ([.flowStart .mapping] ++ flowTokens ws) allowed place q)
    (by rw [behindMapping, List.getLast?_concat]; simp) (by simp [inMapping, behindMapping])
  obtain ⟨u, last, whole⟩ := step?_of_end
    (s := behindMapping ([.flowStart .mapping] ++ flowTokens ws ++ [.flowEnd .mapping]) place
      (q.after '\x7d')) (pastGap?_of_end rfl) rfl rfl rfl (Nat.zero_le _)
  rw [((brace.trans entries).trans closing).tokens_eq last (by rw [whole, List.getLast?_concat]),
    whole]
  simp [behindMapping, Outline.closeTo, Outline.leave]

end CallToAction.Yaml
