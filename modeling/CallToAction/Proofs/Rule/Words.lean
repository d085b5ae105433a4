import CallToAction.Proofs.Number.Reading
import CallToAction.Rule.Condition

/-!
# The words of tests

The text of a test is three words: a fact, a comparison and a number, or an aspect, a sign of
equality and a value.  No word has a blank, a parenthesis or a letter in it with which a connective
begins.  The words of a test tell its outcome on every page: the last one may be a number, and
doubles of one text compare alike.

* `isWord`, `words_inj`: words end at blanks;
* `Threshold.admits_eq_of_text_eq`: thresholds of one text admit the same values;
* `exists_words`: a test is three words;
* `alike_of_test`: tests of one text have the same outcomes.
-/

namespace CallToAction

/-! ### Words -/

/-- The characters at which a text can be split, and the first letters of the connectives. -/
def isMark (c : Char) : Bool := [' ', '(', ')', 'A', 'O'].contains c

/-- At least one character, and no mark. -/
def isWord (cs : List Char) : Bool := !cs.isEmpty && cs.all fun c => !isMark c

section Words

variable {u v w cs ds : List Char}

theorem isMark_of_mem (h : isWord w = true) {c : Char} (hc : c ∈ w) : isMark c = false := by
  have := List.all_eq_true.1 (Bool.and_eq_true_iff.1 h).2 c hc
  rwa [Bool.not_eq_true'] at this

theorem ne_of_mem (h : isWord w = true) {c mark : Char} (hc : c ∈ w) (marked : isMark mark = true) :
    c ≠ mark := by
  rintro rfl
  rw [isMark_of_mem h hc] at marked
  cases marked

theorem isWord_of_isFigure (nonempty : w ≠ []) (figures : ∀ c ∈ w, isFigure c = true) :
    isWord w = true := by
  have apart : [' ', '(', ')', 'A', 'O'].all (fun mark => !isFigure mark) = true := by decide
  rw [isWord, Bool.and_eq_true, List.all_eq_true]
  refine ⟨by simp [nonempty], fun c hc => ?_⟩
  rw [Bool.not_eq_true', ← Bool.not_eq_true, isMark, List.contains_iff_mem]
  intro mark
  have := List.all_eq_true.1 apart c mark
  rw [figures c hc] at this
  cases this

/-- The first word of a text ends at the first blank. -/
theorem words_inj (hu : isWord u = true) (hv : isWord v = true)
    (same : u ++ ' ' :: cs = v ++ ' ' :: ds) : u = v ∧ cs = ds := by
  have first {w : List Char} (h : isWord w = true) (rest : List Char) :
      (w ++ ' ' :: rest).takeWhile (· != ' ') = w := by
    rw [List.takeWhile_append_of_pos fun c hc => bne_iff_ne.2 (ne_of_mem h hc rfl),
      List.takeWhile_cons_of_neg (by decide), List.append_nil]
  have word : u = v := by rw [← first hu cs, same, first hv ds]
  subst word
  exact ⟨rfl, List.tail_eq_of_cons_eq (List.append_cancel_left same)⟩

theorem isWord_name (fact : Fact) : isWord fact.name.toList = true := by
  cases fact <;> decide

theorem isWord_sign (comparison : Comparison) : isWord comparison.sign.toList = true := by
  cases comparison <;> decide

theorem isWord_aspect (label : Label) : isWord label.aspect.toList = true := by
  rcases label with v | v | v | v | v | v <;> cases v <;> decide

theorem isWord_value (label : Label) : isWord label.value.toList = true := by
  rcases label with v | v | v | v | v | v <;> cases v <;> decide

theorem isWord_text (v : Float) : isWord (Number.text v).toList = true := by
  cases finite : v.isFinite with
  | true =>
    have figures := Number.figures_text finite
    refine isWord_of_isFigure ?_ figures.isFigure
    obtain ⟨sign, rest, text, -, d, more, rfl, -⟩ := figures
    rw [text]
    simp
  | false =>
    unfold Number.text
    cases parts : Binary64.ofFloat v with
    | nan => decide
    | infinity negative => cases negative <;> decide
    | finite negative m e =>
      have := (Binary64.isFinite_iff v).2 ⟨_, _, _, parts⟩
      rw [finite] at this
      cases this

end Words

/-! ### What words tell -/

/-- Labels of one text are one label. -/
theorem Label.text_injective {a b : Label} (same : a.text = b.text) : a = b := by
  have distinct : (all.map text).Nodup := by decide
  exact List.inj_on_of_nodup_map distinct (mem_all a) (mem_all b) same

/-- No fact has the name of an aspect. -/
theorem Fact.name_ne_aspect (key : Fact) (label : Label) : key.name ≠ label.aspect := by
  intro same
  have none : named? label.aspect = none := by
    rcases label with v | v | v | v | v | v <;> cases v <;> decide
  rw [← same, named?_name] at none
  cases none

theorem Comparison.sign_injective {a b : Comparison} (same : a.sign = b.sign) : a = b := by
  revert same
  cases a <;> cases b <;> decide

/-- A comparison with a double depends on the parts of the double alone. -/
theorem Comparison.holds_congr (comparison : Comparison) {bound bound' : Float}
    (same : Binary64.ofFloat bound = Binary64.ofFloat bound') (v : Float) :
    comparison.holds v bound = comparison.holds v bound' := by
  have place : Number.place? bound = Number.place? bound' := congrArg Binary64.place? same
  rw [Bool.eq_iff_iff]
  cases comparison <;>
    simp only [holds, decide_eq_true_eq, Number.lt_iff_place, Number.le_iff_place,
      Number.beq_iff_place, place]

theorem Threshold.toList_text (t : Threshold) :
    t.text.toList = t.comparison.sign.toList ++ ' ' :: (Number.text t.bound).toList := by
  simp [text, toString, String.toList_append]

/-- Thresholds of one text admit the same values. -/
theorem Threshold.admits_eq_of_text_eq {a b : Threshold} (same : a.text = b.text) (v : Float) :
    a.admits v = b.admits v := by
  have chars := congrArg String.toList same
  rw [toList_text, toList_text] at chars
  obtain ⟨sign, bound⟩ := words_inj (isWord_sign a.comparison) (isWord_sign b.comparison) chars
  rw [admits, admits, Comparison.sign_injective (String.toList_inj.1 sign)]
  exact Comparison.holds_congr _ (Number.ofFloat_eq_of_text_eq (String.toList_inj.1 bound)) v

namespace Condition

/-! ### Tests -/

section Tests

variable {c d : Condition}

theorem text_is (label : Label) : (is label).text = label.text := by rw [text]

theorem toList_text_fact (key : Fact) (threshold : Threshold) :
    (fact key threshold).text.toList = key.name.toList ++ ' ' :: threshold.text.toList := by
  simp [text, toString, String.toList_append]

theorem toList_text_is (label : Label) :
    (is label).text.toList =
      label.aspect.toList ++ ' ' :: ("== ".toList ++ label.value.toList) := by
  simp [text_is, Label.text, toString, String.toList_append]

/-- A test is three words. -/
theorem exists_words (test : c.isCompound = false) :
    ∃ u v w, isWord u = true ∧ isWord v = true ∧ isWord w = true ∧
      c.text.toList = u ++ ' ' :: (v ++ ' ' :: w) := by
  cases c with
  | fact key threshold =>
    refine ⟨_, _, _, isWord_name key, isWord_sign threshold.comparison,
      isWord_text threshold.bound, ?_⟩
    rw [toList_text_fact, Threshold.toList_text]
  | is label =>
    refine ⟨_, ['=', '='], _, isWord_aspect label, by decide, isWord_value label, ?_⟩
    rw [toList_text_is]
    rfl
  | all parts => cases test
  | any parts => cases test

/-- A test of a fact is not written as a test for a label. -/
theorem text_fact_ne_text_is (key : Fact) (threshold : Threshold) (label : Label) :
    (fact key threshold).text ≠ (is label).text := by
  intro same
  have chars := congrArg String.toList same
  rw [toList_text_fact, toList_text_is] at chars
  have name := (words_inj (isWord_name key) (isWord_aspect label) chars).1
  exact key.name_ne_aspect label (String.toList_inj.1 name)

/-- Conditions that have the same outcome on every page. -/
def Alike (c d : Condition) : Prop := ∀ page, c.evaluate page = d.evaluate page

/-- Tests of one text have the same outcomes. -/
theorem alike_of_test (hc : c.isCompound = false) (hd : d.isCompound = false)
    (same : c.text = d.text) : Alike c d := by
  cases c with
  | fact key threshold =>
    cases d with
    | fact key' threshold' =>
      have chars := congrArg String.toList same
      rw [toList_text_fact, toList_text_fact] at chars
      obtain ⟨name, test⟩ := words_inj (isWord_name key) (isWord_name key') chars
      obtain rfl := Fact.name_injective (String.toList_inj.1 name)
      have admits : threshold.admits = threshold'.admits :=
        funext (Threshold.admits_eq_of_text_eq (String.toList_inj.1 test))
      intro page
      rw [evaluate, evaluate, admits]
    | is label => exact absurd same (text_fact_ne_text_is key threshold label)
    | all parts => cases hd
    | any parts => cases hd
  | is label =>
    cases d with
    | fact key threshold => exact absurd same.symm (text_fact_ne_text_is key threshold label)
    | is label' =>
      rw [text_is, text_is] at same
      obtain rfl := Label.text_injective same
      exact fun page => rfl
    | all parts => cases hd
    | any parts => cases hd
  | all parts => cases hc
  | any parts => cases hc

end Tests

end Condition

end CallToAction
