import CallToAction.Proofs.Rule.Words

/-!
# What a condition says is what it tests

The text of a condition determines its outcome on every page, as long as no compound condition in it
is empty.  A text is split at the connectives outside of parentheses.  This gives back the parts
and, if there are several of them, the connective; a part in parentheses is split again.

* `firstPart`, `Passes`: the part that a text begins with, and what belongs to it as a whole;
* `text_eq`, `evaluate_eq`: text and outcome of a condition by its parts;
* `joinWith_connective_inj`: a text is split in one way only;
* `passes_partTexts`: parts are passed as a whole;
* `evaluate_eq_of_text_eq`: conditions of one text have the same outcomes.
-/

namespace CallToAction.Condition

/-! ### Parts of texts -/

/-- The part that a text begins with: what stands before the first connective outside of
parentheses, where `depth` parentheses are open before the text. -/
def firstPart : ℕ → List Char → List Char
  | _, [] => []
  | depth, c :: cs =>
    if depth = 0 ∧ c = ' ' ∧ (cs.head? = some 'A' ∨ cs.head? = some 'O') then []
    else c :: firstPart (if c = '(' then depth + 1 else if c = ')' then depth - 1 else depth) cs

/-- A text belongs as a whole to the part in which it begins, and closes what it opens. -/
def Passes (depth : ℕ) (w : List Char) : Prop :=
  ∀ rest, firstPart depth (w ++ rest) = w ++ firstPart depth rest

section Passing

variable {depth : ℕ} {u v w : List Char}

theorem Passes.append (hu : Passes depth u) (hv : Passes depth v) : Passes depth (u ++ v) := by
  intro rest
  rw [List.append_assoc, hu, hv, List.append_assoc]

theorem passes_word (h : isWord w = true) : Passes depth w := by
  intro rest
  have plain : ∀ c ∈ w, c ≠ ' ' ∧ c ≠ '(' ∧ c ≠ ')' := fun c hc =>
    ⟨ne_of_mem h hc rfl, ne_of_mem h hc rfl, ne_of_mem h hc rfl⟩
  clear h
  induction w with
  | nil => rfl
  | cons c cs ih =>
    obtain ⟨⟨blank, opening, closing⟩, later⟩ := List.forall_mem_cons.1 plain
    rw [List.cons_append, firstPart, if_neg (fun h => blank h.2.1), if_neg opening, if_neg closing,
      ih later, List.cons_append]

/-- A blank before a word that is not a connective does not end a part. -/
theorem passes_blank (h : isWord w = true) : Passes depth (' ' :: w) := by
  intro rest
  obtain ⟨c, cs, rfl⟩ : ∃ c cs, w = c :: cs := by
    cases w with
    | nil => cases h
    | cons c cs => exact ⟨c, cs, rfl⟩
  have first : c ≠ 'A' ∧ c ≠ 'O' :=
    ⟨ne_of_mem h List.mem_cons_self rfl, ne_of_mem h List.mem_cons_self rfl⟩
  have plain : ¬ (depth = 0 ∧ ' ' = ' ' ∧
      ((c :: cs ++ rest).head? = some 'A' ∨ (c :: cs ++ rest).head? = some 'O')) := by
    simp [first]
  rw [List.cons_append, firstPart, if_neg plain, if_neg (by decide), if_neg (by decide),
    passes_word h]
  rfl

/-- In parentheses nothing ends a part. -/
theorem Passes.parenthesized (h : Passes (depth + 1) w) : Passes depth ('(' :: (w ++ [')'])) := by
  intro rest
  have opening : ¬ (depth = 0 ∧ '(' = ' ' ∧
      ((w ++ [')'] ++ rest).head? = some 'A' ∨ (w ++ [')'] ++ rest).head? = some 'O')) := by
    simp
  have closing : firstPart (depth + 1) (')' :: rest) = ')' :: firstPart depth rest := by
    simp [firstPart]
  rw [List.cons_append, firstPart, if_neg opening, if_pos rfl, List.append_assoc, h,
    List.singleton_append, closing]
  simp

end Passing

/-! ### Conditions by their parts -/

/-- Whether some part suffices. -/
def isAny : Condition → Bool
  | any _ => true
  | _ => false

/-- What a condition joins; a test is its own only part. -/
def parts : Condition → List Condition
  | fact key threshold => [fact key threshold]
  | is label => [is label]
  | all parts | any parts => parts

/-- The word between parts, with the blanks around it. -/
def connective (disjunctive : Bool) : String := if disjunctive then " OR " else " AND "

/-- A condition as part of a text. -/
def partText (c : Condition) : String := if c.isCompound then s!"({c.text})" else c.text

theorem partTexts_cons (c : Condition) (cs : List Condition) :
    partTexts (c :: cs) = c.partText :: partTexts cs := by
  rw [partTexts, partText]

theorem length_partTexts (cs : List Condition) : (partTexts cs).length = cs.length := by
  induction cs with
  | nil => rw [partTexts, List.length_nil, List.length_nil]
  | cons c cs ih => rw [partTexts_cons, List.length_cons, List.length_cons, ih]

/-- The text of a condition is that of its parts, with the connective between them. -/
theorem text_eq (c : Condition) :
    c.text = Text.joinWith (connective c.isAny) (partTexts c.parts) := by
  cases c with
  | fact key threshold => rw [parts, partTexts_cons, partTexts]; rfl
  | is label => rw [parts, partTexts_cons, partTexts]; rfl
  | all parts => rw [text]; rfl
  | any parts => rw [text]; rfl

/-- One part is joined with nothing, so the connective makes no difference. -/
theorem evaluateAll_singleton (page : Page) (c : Condition) :
    evaluateAll page [c] = c.evaluate page := by
  rw [evaluateAll_cons, evaluateAll_nil]
  rcases c.evaluate page with e | _ | _ <;> rfl

theorem evaluateAny_singleton (page : Page) (c : Condition) :
    evaluateAny page [c] = c.evaluate page := by
  rw [evaluateAny_cons, evaluateAny_nil]
  rcases c.evaluate page with e | _ | _ <;> rfl

/-- The outcome of a condition is that of its parts. -/
theorem evaluate_eq (page : Page) (c : Condition) :
    c.evaluate page = if c.isAny then evaluateAny page c.parts else evaluateAll page c.parts := by
  cases c with
  | fact key threshold => exact (evaluateAll_singleton page _).symm
  | is label => exact (evaluateAll_singleton page _).symm
  | all parts => exact evaluate_all page parts
  | any parts => exact evaluate_any page parts

/-! ### Conditions of the same outcomes -/

section Alike

variable {c d : Condition} {cs ds : List Condition}

theorem evaluateAll_congr (h : List.Forall₂ Alike cs ds) (page : Page) :
    evaluateAll page cs = evaluateAll page ds := by
  induction h with
  | nil => rfl
  | cons first _ ih => rw [evaluateAll_cons, evaluateAll_cons, first page, ih]

theorem evaluateAny_congr (h : List.Forall₂ Alike cs ds) (page : Page) :
    evaluateAny page cs = evaluateAny page ds := by
  induction h with
  | nil => rfl
  | cons first _ ih => rw [evaluateAny_cons, evaluateAny_cons, first page, ih]

/-- The connective counts only between parts. -/
theorem alike_of_parts (h : List.Forall₂ Alike c.parts d.parts)
    (connective : c.parts.length = 1 ∨ c.isAny = d.isAny) : Alike c d := by
  intro page
  rw [evaluate_eq page c, evaluate_eq page d, evaluateAll_congr h, evaluateAny_congr h]
  rcases connective with single | same
  · obtain ⟨part, parts⟩ := List.length_eq_one_iff.1 (h.length_eq ▸ single)
    rw [parts, evaluateAll_singleton, evaluateAny_singleton, ite_self, ite_self]
  · rw [same]

end Alike

/-! ### Texts are split in one way -/

section Splitting

variable {depth : ℕ} {a b : Bool} {ps qs : List String}

/-- What stands behind the first part. -/
def behind (disjunctive : Bool) : List String → String
  | [] => ""
  | p :: ps => connective disjunctive ++ Text.joinWith (connective disjunctive) (p :: ps)

theorem joinWith_cons (disjunctive : Bool) (p : String) (ps : List String) :
    Text.joinWith (connective disjunctive) (p :: ps) = p ++ behind disjunctive ps := by
  cases ps with
  | nil => rw [Text.joinWith, behind, String.append_empty]
  | cons q qs => simp only [Text.joinWith, behind, String.append_assoc]

theorem passes_connective (disjunctive : Bool) :
    Passes (depth + 1) (connective disjunctive).toList := by
  intro rest
  cases disjunctive <;> simp [connective, firstPart]

theorem passes_joinWith (h : ∀ p ∈ ps, Passes (depth + 1) p.toList) :
    Passes (depth + 1) (Text.joinWith (connective a) ps).toList := by
  induction ps with
  | nil => exact fun rest => rfl
  | cons p ps ih =>
    obtain ⟨first, others⟩ := List.forall_mem_cons.1 h
    rw [joinWith_cons, String.toList_append]
    refine first.append ?_
    cases ps with
    | nil => exact fun rest => rfl
    | cons q qs =>
      rw [behind, String.toList_append]
      exact (passes_connective a).append (ih others)

/-- The first part ends where the text goes on behind it. -/
theorem firstPart_append_behind {p : String} (h : Passes 0 p.toList) :
    firstPart 0 (p ++ behind a ps).toList = p.toList := by
  rw [String.toList_append, h]
  cases ps with
  | nil => exact List.append_nil _
  | cons q qs =>
    rw [behind, String.toList_append]
    cases a <;> simp [connective, firstPart]

theorem behind_cons_ne (a : Bool) (p : String) (ps : List String) : behind a (p :: ps) ≠ "" := by
  intro none
  have chars := congrArg String.toList none
  rw [behind, String.toList_append] at chars
  cases a <;> simp [connective] at chars

/-- What stands behind the first part begins with the connective. -/
theorem behind_inj_connective {p q : String} (same : behind a (p :: ps) = behind b (q :: qs)) :
    a = b := by
  have chars := congrArg String.toList same
  rw [behind, behind, String.toList_append, String.toList_append] at chars
  cases a <;> cases b <;> simp [connective] at chars ⊢

/-- A text is split into parts in one way only, and several parts tell the connective. -/
theorem joinWith_connective_inj (hp : ∀ p ∈ ps, Passes 0 p.toList)
    (hq : ∀ q ∈ qs, Passes 0 q.toList) (nonempty : ps ≠ []) (nonempty' : qs ≠ [])
    (same : Text.joinWith (connective a) ps = Text.joinWith (connective b) qs) :
    ps = qs ∧ (ps.length = 1 ∨ a = b) := by
  induction ps generalizing qs with
  | nil => exact absurd rfl nonempty
  | cons p ps ih =>
    cases qs with
    | nil => exact absurd rfl nonempty'
    | cons q qs =>
      obtain ⟨first, others⟩ := List.forall_mem_cons.1 hp
      obtain ⟨first', others'⟩ := List.forall_mem_cons.1 hq
      rw [joinWith_cons, joinWith_cons] at same
      have head : p = q := by
        rw [← String.toList_inj, ← firstPart_append_behind first, same,
          firstPart_append_behind first']
      subst head
      have rest : behind a ps = behind b qs := by
        rwa [String.append_right_inj] at same
      cases ps with
      | nil =>
        cases qs with
        | nil => exact ⟨rfl, .inl rfl⟩
        | cons q' qs' => exact absurd rest.symm (behind_cons_ne b q' qs')
      | cons p' ps' =>
        cases qs with
        | nil => exact absurd rest (behind_cons_ne a p' ps')
        | cons q' qs' =>
          obtain rfl := behind_inj_connective rest
          obtain ⟨tails, -⟩ := ih others others' (by simp) (by simp) (by
            rwa [behind, behind, String.append_right_inj] at rest)
          exact ⟨by rw [tails], .inr rfl⟩

end Splitting

/-! ### Parts are passed as a whole -/

/-- A test is passed everywhere. -/
theorem passes_test {c : Condition} (test : c.isCompound = false) (depth : ℕ) :
    Passes depth c.text.toList := by
  obtain ⟨u, v, w, hu, hv, hw, words⟩ := exists_words test
  have blanks : u ++ ' ' :: (v ++ ' ' :: w) = u ++ (' ' :: v ++ ' ' :: w) := rfl
  rw [words, blanks]
  exact (passes_word hu).append ((passes_blank hv).append (passes_blank hw))

theorem toList_partText_of_isCompound {c : Condition} (compound : c.isCompound = true) :
    c.partText.toList = '(' :: (c.text.toList ++ [')']) := by
  simp [partText, compound, toString, String.toList_append]

theorem partText_of_test {c : Condition} (test : c.isCompound = false) : c.partText = c.text := by
  rw [partText, test]
  rfl

/-- A test begins with a word, a compound part with a parenthesis. -/
theorem partText_ne_of_test {c d : Condition} (compound : c.isCompound = true)
    (test : d.isCompound = false) : c.partText ≠ d.partText := by
  intro same
  have chars := congrArg String.toList same
  obtain ⟨u, v, w, hu, -, -, words⟩ := exists_words test
  rw [toList_partText_of_isCompound compound, partText_of_test test, words] at chars
  cases u with
  | nil => cases hu
  | cons x u => exact ne_of_mem hu List.mem_cons_self rfl (List.head_eq_of_cons_eq chars).symm

/-- A part is passed everywhere if its text is passed in parentheses. -/
theorem passes_partText {c : Condition} (h : ∀ depth, Passes (depth + 1) c.text.toList)
    (depth : ℕ) : Passes depth c.partText.toList := by
  cases compound : c.isCompound with
  | true =>
    rw [toList_partText_of_isCompound compound]
    exact (h depth).parenthesized
  | false =>
    rw [partText_of_test compound]
    exact passes_test compound depth

mutual

/-- In parentheses a text is passed as a whole. -/
theorem passes_text (c : Condition) (depth : ℕ) : Passes (depth + 1) c.text.toList := by
  cases c with
  | fact key threshold => exact passes_test rfl _
  | is label => exact passes_test rfl _
  | all parts =>
    rw [text_eq]
    exact passes_joinWith fun p hp => passes_partTexts parts p hp _
  | any parts =>
    rw [text_eq]
    exact passes_joinWith fun p hp => passes_partTexts parts p hp _

/-- Parts are passed everywhere. -/
theorem passes_partTexts (cs : List Condition) :
    ∀ p ∈ partTexts cs, ∀ depth, Passes depth p.toList := by
  cases cs with
  | nil => simp [partTexts]
  | cons c cs =>
    rw [partTexts_cons, List.forall_mem_cons]
    exact ⟨passes_partText (passes_text c), passes_partTexts cs⟩

end

/-! ### Reading conditions off their texts -/

mutual

/-- Whether every compound condition in a condition has a part. -/
def populated : Condition → Bool
  | fact _ _ | is _ => true
  | all parts | any parts => !parts.isEmpty && allPopulated parts

/-- Whether every compound condition in some conditions has a part. -/
def allPopulated : List Condition → Bool
  | [] => true
  | part :: rest => part.populated && allPopulated rest

end

section Reading

variable {c d : Condition}

theorem allPopulated_parts (h : c.populated = true) :
    c.parts ≠ [] ∧ allPopulated c.parts = true := by
  cases c with
  | fact key threshold => exact ⟨by simp [parts], by simp [parts, allPopulated, populated]⟩
  | is label => exact ⟨by simp [parts], by simp [parts, allPopulated, populated]⟩
  | all parts => simpa [Condition.parts, populated] using h
  | any parts => simpa [Condition.parts, populated] using h

/-- The text of a condition tells the texts of its parts. -/
theorem partTexts_eq_of_text_eq (hc : c.populated = true) (hd : d.populated = true)
    (same : c.text = d.text) :
    partTexts c.parts = partTexts d.parts ∧ (c.parts.length = 1 ∨ c.isAny = d.isAny) := by
  have nonempty {c : Condition} (h : c.populated = true) : partTexts c.parts ≠ [] := by
    rw [← List.length_pos_iff, length_partTexts, List.length_pos_iff]
    exact (allPopulated_parts h).1
  rw [text_eq c, text_eq d] at same
  rw [← length_partTexts c.parts]
  exact joinWith_connective_inj (fun p hp => passes_partTexts _ p hp 0)
    (fun q hq => passes_partTexts _ q hq 0) (nonempty hc) (nonempty hd) same

/-- The text of a part tells whether the part is compound, and its text. -/
theorem eq_of_partText_eq (same : c.partText = d.partText) :
    c.isCompound = d.isCompound ∧ c.text = d.text := by
  cases hc : c.isCompound with
  | true =>
    cases hd : d.isCompound with
    | true =>
      have chars := congrArg String.toList same
      rw [toList_partText_of_isCompound hc, toList_partText_of_isCompound hd] at chars
      exact ⟨rfl, String.toList_inj.1 (List.append_cancel_right (List.tail_eq_of_cons_eq chars))⟩
    | false => exact absurd same (partText_ne_of_test hc hd)
  | false =>
    cases hd : d.isCompound with
    | true => exact absurd same.symm (partText_ne_of_test hd hc)
    | false => exact ⟨rfl, by rwa [partText_of_test hc, partText_of_test hd] at same⟩

end Reading

mutual

/-- Parts of one text have the same outcomes. -/
theorem alike_of_partText_eq (c d : Condition) (hc : c.populated = true) (hd : d.populated = true)
    (same : c.partText = d.partText) : Alike c d := by
  obtain ⟨kind, texts⟩ := eq_of_partText_eq same
  cases c with
  | fact key threshold => exact alike_of_test rfl kind.symm texts
  | is label => exact alike_of_test rfl kind.symm texts
  | all parts =>
    obtain ⟨parts_eq, connective⟩ := partTexts_eq_of_text_eq hc hd texts
    exact alike_of_parts (forall₂_alike parts d.parts (allPopulated_parts hc).2
      (allPopulated_parts hd).2 parts_eq) connective
  | any parts =>
    obtain ⟨parts_eq, connective⟩ := partTexts_eq_of_text_eq hc hd texts
    exact alike_of_parts (forall₂_alike parts d.parts (allPopulated_parts hc).2
      (allPopulated_parts hd).2 parts_eq) connective

theorem forall₂_alike (cs ds : List Condition) (hc : allPopulated cs = true)
    (hd : allPopulated ds = true) (same : partTexts cs = partTexts ds) :
    List.Forall₂ Alike cs ds := by
  cases cs with
  | nil =>
    cases ds with
    | nil => exact .nil
    | cons d ds =>
      rw [partTexts, partTexts_cons] at same
      cases same
  | cons c cs =>
    cases ds with
    | nil =>
      rw [partTexts, partTexts_cons] at same
      cases same
    | cons d ds =>
      rw [partTexts_cons, partTexts_cons, List.cons.injEq] at same
      rw [allPopulated, Bool.and_eq_true] at hc hd
      exact .cons (alike_of_partText_eq c d hc.1 hd.1 same.1) (forall₂_alike cs ds hc.2 hd.2 same.2)

end

/-- **The text of a condition tells its outcomes.**  Conditions of one text, without empty compound
conditions in them, have the same outcome or the same error on every page. -/
theorem evaluate_eq_of_text_eq {c d : Condition} (hc : c.populated = true)
    (hd : d.populated = true) (same : c.text = d.text) (page : Page) :
    c.evaluate page = d.evaluate page := by
  obtain ⟨parts_eq, connective⟩ := partTexts_eq_of_text_eq hc hd same
  exact alike_of_parts (forall₂_alike c.parts d.parts (allPopulated_parts hc).2
    (allPopulated_parts hd).2 parts_eq) connective page

/-- Two conditions of one text: the only part of a condition is joined with nothing. -/
theorem evaluate_eq_of_text_eq_single :
    let group : Condition := all [fact .position ⟨.greater, 800⟩, is (.mobileFriendly true)]
    let page : Page := .ofFacts .empty
    (any [group]).text = "(cta_position_y > 800 AND mobile_friendly == yes)" ∧
      (all [group]).text = (any [group]).text ∧
      (any [group]).evaluate page = .error (.missing .position) ∧
      (all [group]).evaluate page = .error (.missing .position) := by
  intro group page
  have same : (all [group]).text = (any [group]).text := by decide +kernel
  have failed : (any [group]).evaluate page = .error (.missing .position) := by decide +kernel
  have alike := evaluate_eq_of_text_eq (by decide) (by decide) same page
  exact ⟨by decide +kernel, same, failed, alike.trans failed⟩

/-- Without parts there is no text either, and the outcomes differ. -/
example : (all []).text = (any []).text ∧
    (all []).evaluate (.ofFacts .empty) = .ok true ∧
    (any []).evaluate (.ofFacts .empty) = .ok false := by
  decide

end CallToAction.Condition
