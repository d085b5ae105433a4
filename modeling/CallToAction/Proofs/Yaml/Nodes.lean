import CallToAction.Proofs.Yaml.Block
import CallToAction.Proofs.Yaml.Flow
import CallToAction.Yaml.Document
import Mathlib.Data.List.TakeWhile

/-!
# The nodes of mappings

The tokens of a mapping of scalars are read as a mapping with just these entries, whether it stands
in braces or over lines.  Reading counts its steps, so each statement here is about any number of
them that is large enough.

* `Node.readEntry_tokens`: an entry is read off its four tokens;
* `document?_flowTokens`, `document?_blockTokens`: the mappings that documents are;
* `read?_flowText`, `read?_blockText`: the same for texts.
-/

namespace CallToAction.Yaml

/-- The nodes of an entry of a mapping, the key of which is written in a style. -/
def Written.nodes (w : Written) (key : Style) : Node × Node :=
  (.scalar none key (.ofList w.key), .scalar none .plain (.ofList w.value))

theorem flowTokens_cons (w : Written) (ws : List Written) :
    flowTokens (w :: ws) = w.tokens .quoted ++ ws.flatMap fun w => .comma :: w.tokens .quoted := by
  induction ws generalizing w with
  | nil => simp [flowTokens]
  | cons next ws ih => simp [flowTokens, ih]

namespace Node

variable (handles : Handles) (anchors : Anchors) (rest : List Token)

theorem read_scalar (block loose : Bool) (n : Nat) (style : Style) (text : String) :
    read handles block loose (n + 2) ⟨.scalar style text :: rest, anchors⟩
      = some (.scalar none style text, ⟨rest, anchors⟩) := rfl

/-- An entry is read off its tokens behind the mark of its key. -/
theorem readEntry_tokens {ends : Token → Bool} (block : Bool) (n : Nat) (w : Written) (key : Style)
    (scalars : ∀ style text, ends (.scalar style text) = false) :
    readEntry ends handles block (n + 5) ⟨(w.tokens key).tail ++ rest, anchors⟩
      = some (w.nodes key, ⟨rest, anchors⟩) := by
  have scalar (n : Nat) (style : Style) (text : String) (rest : List Token) :
      readUnless ends handles block block (n + 3) ⟨.scalar style text :: rest, anchors⟩
        = some (.scalar none style text, ⟨rest, anchors⟩) := by
    rw [readUnless, List.head?_cons, Option.any_some, scalars, if_neg Bool.false_ne_true,
      read_scalar]
  change (readUnless ends handles block block (n + 1 + 3)
    ⟨.scalar key (.ofList w.key) :: _, anchors⟩ >>= fun _ => _) = _
  rw [scalar, Option.bind_eq_bind, Option.bind_some]
  change (readUnless ends handles block block (n + 3) ⟨.scalar .plain (.ofList w.value) :: rest, _⟩
    >>= fun _ => _) = _
  rw [scalar]
  rfl

/-! ### Mappings in braces -/

/-- An entry in braces is read, behind a comma unless it is the first one. -/
theorem flowEntries_tokens (first : Bool) (n : Nat) (w : Written) :
    flowEntries handles first (n + 7)
        ⟨(if first then [] else [.comma]) ++ (w.tokens .quoted ++ rest), anchors⟩
      = (flowEntries handles false (n + 6) ⟨rest, anchors⟩).map
          fun read => (w.nodes .quoted :: read.1, read.2) := by
  have entry : flowEntry handles (n + 6) ⟨w.tokens .quoted ++ rest, anchors⟩
      = some (w.nodes .quoted, ⟨rest, anchors⟩) :=
    readEntry_tokens handles anchors rest false n w .quoted fun _ _ => rfl
  rw [Option.map_eq_bind]
  cases first
  all_goals
    change (flowEntry handles (n + 6) ⟨w.tokens .quoted ++ rest, anchors⟩ >>= fun _ => _) = _
    rw [entry]
    rfl

/-- The entries behind another one are read. -/
theorem flowEntries_commas (ws : List Written) (n : Nat) :
    flowEntries handles false (n + ws.length + 7)
        ⟨ws.flatMap (fun w => .comma :: w.tokens .quoted) ++ .flowEnd .mapping :: rest, anchors⟩
      = some (ws.map (·.nodes .quoted), ⟨rest, anchors⟩) := by
  induction ws with
  | nil => rfl
  | cons w ws ih =>
    have first := flowEntries_tokens handles anchors
      (ws.flatMap (fun w => .comma :: w.tokens .quoted) ++ .flowEnd .mapping :: rest) false
      (n + ws.length + 1) w
    rw [ih] at first
    simpa [← Nat.add_assoc] using first

/-- A mapping in braces is read. -/
theorem read_flowTokens (ws : List Written) (n : Nat) :
    read handles true false (n + ws.length + 9)
        ⟨.flowStart .mapping :: (flowTokens ws ++ .flowEnd .mapping :: rest), anchors⟩
      = some (.mapping (ws.map (·.nodes .quoted)), ⟨rest, anchors⟩) := by
  have entries : flowEntries handles true (n + ws.length + 7)
      ⟨flowTokens ws ++ .flowEnd .mapping :: rest, anchors⟩
        = some (ws.map (·.nodes .quoted), ⟨rest, anchors⟩) := by
    cases ws with
    | nil => rfl
    | cons w ws =>
      have first := flowEntries_tokens handles anchors
        (ws.flatMap (fun w => .comma :: w.tokens .quoted) ++ .flowEnd .mapping :: rest) true
        (n + ws.length + 1) w
      rw [flowEntries_commas] at first
      simpa [flowTokens_cons, ← Nat.add_assoc] using first
  change ((flowEntries handles true (n + ws.length + 7) ⟨_, anchors⟩ >>= fun _ => _)
    >>= fun _ => _) = _
  rw [entries]
  rfl

/-! ### Mappings over lines -/

/-- An entry of a mapping over lines is read. -/
theorem blockEntries_tokens (n : Nat) (w : Written) :
    blockEntries handles (n + 6) ⟨w.tokens .plain ++ rest, anchors⟩
      = (blockEntries handles (n + 5) ⟨rest, anchors⟩).map
          fun read => (w.nodes .plain :: read.1, read.2) := by
  have entry : readEntry endsBlockEntry handles true (n + 5)
      ⟨(w.tokens .plain).tail ++ rest, anchors⟩ = some (w.nodes .plain, ⟨rest, anchors⟩) :=
    readEntry_tokens handles anchors rest true n w .plain fun _ _ => rfl
  rw [Option.map_eq_bind]
  change (readEntry endsBlockEntry handles true (n + 5) ⟨(w.tokens .plain).tail ++ rest, anchors⟩
    >>= fun _ => _) = _
  rw [entry]
  rfl

/-- The entries of a mapping over lines are read up to its end. -/
theorem blockEntries_blockEnd (ws : List Written) (n : Nat) :
    blockEntries handles (n + ws.length + 5)
        ⟨ws.flatMap (·.tokens .plain) ++ .blockEnd :: rest, anchors⟩
      = some (ws.map (·.nodes .plain), ⟨rest, anchors⟩) := by
  induction ws with
  | nil => rfl
  | cons w ws ih =>
    have first := blockEntries_tokens handles anchors
      (ws.flatMap (·.tokens .plain) ++ .blockEnd :: rest) (n + ws.length) w
    rw [ih] at first
    simpa [← Nat.add_assoc] using first

/-- A mapping over lines is read. -/
theorem read_blockTokens (ws : List Written) (n : Nat) :
    read handles true false (n + ws.length + 7)
        ⟨.blockStart .mapping :: (ws.flatMap (·.tokens .plain) ++ .blockEnd :: rest), anchors⟩
      = some (.mapping (ws.map (·.nodes .plain)), ⟨rest, anchors⟩) := by
  change ((blockEntries handles (n + ws.length + 5) ⟨_, anchors⟩ >>= fun _ => _)
    >>= fun _ => _) = _
  rw [blockEntries_blockEnd]
  rfl

end Node

/-! ### Documents -/

/-- A document that begins with a collection is this collection, if nothing follows. -/
theorem document?_of_ofTokens? {tokens : List Token} {node : Node}
    (begins : (∃ kind, tokens.head? = some (.flowStart kind)) ∨
      ∃ kind, tokens.head? = some (.blockStart kind))
    (read : Node.ofTokens? [] tokens = some (node, [.finish])) : document? tokens = some node := by
  rcases begins with ⟨kind, begins⟩ | ⟨kind, begins⟩
  all_goals
    obtain ⟨rest, rfl⟩ := List.head?_eq_some_iff.1 begins
    change (Node.ofTokens? [] _ >>= fun _ => _) = _
    rw [read]
    rfl

theorem document?_flowTokens (ws : List Written) :
    document? (.flowStart .mapping :: (flowTokens ws ++ [.flowEnd .mapping, .finish]))
      = some (.mapping (ws.map (·.nodes .quoted))) := by
  have length : ws.length ≤ (flowTokens ws).length := by
    cases ws with
    | nil => exact Nat.le_refl 0
    | cons w ws =>
      simp only [flowTokens_cons, List.length_append, List.length_flatMap, Written.tokens,
        List.length_cons, List.length_nil, List.map_const', List.sum_replicate_nat]
      omega
  have enough : ws.length + 9 ≤ 8 * ((.flowStart .mapping ::
      (flowTokens ws ++ [.flowEnd .mapping, .finish])).length + 1) := by
    simp only [List.length_cons, List.length_append]
    omega
  obtain ⟨n, steps⟩ := Nat.exists_eq_add_of_le' enough
  refine document?_of_ofTokens? (.inl ⟨.mapping, rfl⟩) ?_
  rw [Node.ofTokens?, steps]
  change (Node.read _ _ _ (n + ws.length + 9) _ >>= fun _ => _) = _
  rw [Node.read_flowTokens]
  rfl

theorem blockTokens_true (ws : List Written) :
    Reading.blockTokens true ws = ws.flatMap (·.tokens .plain) := by
  induction ws with
  | nil => rfl
  | cons w ws ih => simp [Reading.blockTokens, Reading.opening, ih]

theorem document?_blockTokens (ws : List Written) :
    document? (Reading.blockTokens false ws
        ++ (if ws.isEmpty then [.finish] else [.blockEnd, .finish]))
      = some (if ws.isEmpty then .absent else .mapping (ws.map (·.nodes .plain))) := by
  cases ws with
  | nil => rfl
  | cons w ws =>
    have tokens : Reading.blockTokens false (w :: ws) ++ [.blockEnd, .finish] = .blockStart .mapping
        :: ((w :: ws).flatMap (·.tokens .plain) ++ [.blockEnd, .finish]) := by
      simp [Reading.blockTokens, Reading.opening, blockTokens_true]
    have enough : (w :: ws).length + 7 ≤ 8 * ((.blockStart .mapping ::
        ((w :: ws).flatMap (·.tokens .plain) ++ [.blockEnd, .finish])).length + 1) := by
      simp [Written.tokens, List.length_flatMap, List.map_const']
      omega
    obtain ⟨n, steps⟩ := Nat.exists_eq_add_of_le' enough
    rw [List.isEmpty_cons, if_neg Bool.false_ne_true, if_neg Bool.false_ne_true, tokens]
    refine document?_of_ofTokens? (.inr ⟨.mapping, rfl⟩) ?_
    rw [Node.ofTokens?, steps]
    change (Node.read _ _ _ (n + (w :: ws).length + 7) _ >>= fun _ => _) = _
    rw [Node.read_blockTokens]
    rfl

/-! ### Texts -/

theorem unifyBreaks_eq_self {cs : List Char} (h : '\r' ∉ cs) : unifyBreaks cs = cs := by
  fun_induction unifyBreaks cs with
  | case1 => rfl
  | case2 cs => exact absurd List.mem_cons_self h
  | case3 c cs _ ih =>
    obtain ⟨other, h⟩ := not_or.1 (mt List.mem_cons.2 h)
    rw [if_neg (Ne.symm other), ih h]

theorem mem_of_mem_unifyBreaks {c : Char} {cs : List Char} (h : c ∈ unifyBreaks cs)
    (other : c ≠ '\n') : c ∈ cs := by
  fun_induction unifyBreaks cs with
  | case1 => exact h
  | case2 cs ih =>
    rcases List.mem_cons.1 h with rfl | h
    · exact absurd rfl other
    · exact List.mem_cons_of_mem _ (List.mem_cons_of_mem _ (ih h))
  | case3 d cs _ ih =>
    rcases List.mem_cons.1 h with rfl | h
    · split_ifs at other ⊢ with line
      · exact absurd rfl other
      · exact List.mem_cons_self
    · exact List.mem_cons_of_mem _ (ih h)

theorem head?_unifyBreaks {c : Char} {cs : List Char} (h : cs.head? = some c) (other : c ≠ '\r') :
    (unifyBreaks cs).head? = some c := by
  obtain ⟨rest, rfl⟩ := List.head?_eq_some_iff.1 h
  rw [unifyBreaks, if_neg other]
  · rfl
  · rintro _ rfl
    exact absurd rfl other

/-- All characters are read, if there is neither a byte order mark at the beginning nor a null
character. -/
theorem readable_eq {text : String} (mark : text.toList.head? ≠ some '\ufeff')
    (ends : '\x00' ∉ text.toList) : readable text = unifyBreaks text.toList := by
  have unmarked : dropMark text.toList = text.toList := by
    cases h : text.toList with
    | nil => rfl
    | cons c cs =>
      rw [h] at mark
      exact if_neg (by simpa using mark)
  rw [readable, unmarked, unmarked, List.takeWhile_eq_self_iff.2]
  intro c hc
  simpa using ne_of_mem_of_not_mem hc ends

theorem of_mem_flowText {ws : List Written} (plain : ∀ w ∈ ws, w.Plain) {c : Char}
    (h : c ∈ flowText ws) : isPlainChar c = true ∨ c ∈ ['"', ':', ','] := by
  have entry {w : Written} (plain : w.Plain) (h : c ∈ w.flowText) :
      isPlainChar c = true ∨ c ∈ ['"', ':', ','] := by
    simp only [Written.flowText, List.mem_cons, List.mem_append] at h
    rcases h with rfl | h | rfl | rfl | h
    · exact .inr (by simp)
    · exact .inl (plain.key.1 c h)
    · exact .inr (by simp)
    · exact .inr (by simp)
    · exact .inl (plain.value.1 c h)
  fun_induction flowText ws with
  | case1 => cases h
  | case2 w => exact entry (plain w List.mem_cons_self) h
  | case3 w ws _ ih =>
    rcases List.mem_append.1 h with h | h
    · exact entry (plain w List.mem_cons_self) h
    · rcases List.mem_cons.1 h with rfl | h
      · exact .inr (by simp)
      · exact ih (fun v hv => plain v (List.mem_cons_of_mem _ hv)) h

/-- A text in braces is read as a mapping of its entries. -/
theorem read?_flowText {ws : List Written} {text : String} (plain : ∀ w ∈ ws, w.Plain)
    (braces : text.toList = '\x7b' :: (flowText ws ++ ['\x7d'])) :
    read? text = some (.mapping (ws.map (·.nodes .quoted))) := by
  have absent {c : Char} (other : isPlainChar c = false)
      (mark : c ∉ ['\x7b', '\x7d', '"', ':', ',']) : c ∉ text.toList := by
    intro h
    have h : c ∈ flowText ws := by simp_all
    rcases of_mem_flowText plain h with word | sign
    · cases other.symm.trans word
    · simp_all
  have feed : '\r' ∉ text.toList := absent rfl (by decide)
  have ends : '\x00' ∉ text.toList := absent rfl (by decide)
  rw [read?, readable_eq (by simp [braces]) ends, unifyBreaks_eq_self feed, braces,
    tokens_flowText plain, document?_flowTokens]

theorem head?_blockText {ls : List Line} (lines : ∀ l ∈ ls, l.Plain) :
    (blockText ls).head? ≠ some '\ufeff' := by
  cases ls with
  | nil => simp [blockText]
  | cons l ls =>
    cases lines l List.mem_cons_self with
    | @entry w plain =>
      have content := plain.key.head (':' :: ' ' :: (w.value ++ after ls))
      intro h
      have word : isPlainChar '\ufeff' = true :=
        content _ (by simpa [blockText, Line.text] using h)
      cases word
    | @filler blanks comment blank line =>
      cases blanks with
      | nil => cases comment <;> cases ls <;> simp [blockText, Line.text, after]
      | cons c blanks =>
        have first := blank c List.mem_cons_self
        intro h
        have : c = '\ufeff' := by cases comment <;> simpa [blockText, Line.text] using h
        subst this
        cases first

/-- A text of lines is read as a mapping of its entries. -/
theorem read?_blockText {ls : List Line} {text : String} (lines : ∀ l ∈ ls, l.Plain)
    (written : unifyBreaks text.toList = blockText ls) (ends : '\x00' ∉ text.toList) :
    read? text = some (if (entries ls).isEmpty then .absent
      else .mapping ((entries ls).map (·.nodes .plain))) := by
  have mark : text.toList.head? ≠ some '\ufeff' := by
    intro h
    exact head?_blockText lines (written ▸ head?_unifyBreaks h (by decide))
  rw [read?, readable_eq mark ends, written, tokens_blockText lines, document?_blockTokens]

end CallToAction.Yaml
