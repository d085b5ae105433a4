import CallToAction.Proofs.Evaluation.Ranking
import CallToAction.Proofs.Number.Printed
import CallToAction.Proofs.Number.Reading
import CallToAction.Proofs.Text.Lines
import CallToAction.Report.Basic

/-!
# What a trace tells

A trace is read back line by line.  Its first lines are as many in every trace.  The blocks of the
activated rules are not counted anywhere, but each begins with a number and the divider behind them
does not.  The identifier of a rule may look like anything: what is said of the weight of the rule
begins at the last parenthesis of the line.

* `factLine_injective`, `labelLine_injective`, `heading_inj`: a line tells what it was made of;
* `blocks_inj`: the blocks of rules are told up to the divider;
* `lines_tell`: the lines of a trace tell what went into it;
* `trace_tells`: the trace as a text does so too.
-/

namespace CallToAction

open Text (Unbroken)

theorem Printed.unbroken {s : String} (h : Printed s) : Unbroken s := h.not_mem rfl

theorem Category.text_injective {a b : Category} (same : a.text = b.text) : a = b := by
  revert same
  cases a <;> cases b <;> decide

theorem Labels.toList_injective {a b : Labels} (same : a.toList = b.toList) : a = b := by
  cases a
  cases b
  simpa [toList] using same

/-- The texts of a rule have no line breaks. -/
structure Rule.Unbroken (r : Rule) : Prop where
  id : Text.Unbroken r.id
  conclusion : Text.Unbroken r.conclusion
  explanation : Text.Unbroken r.explanation

namespace Reasoning

/-! ### Facts and labels -/

/-- The line of a fact. -/
def factLine (fact : Fact) : Option Float → String
  | some v => s!"  - {fact.caption}: {Number.text v}{fact.unit}"
  | none => s!"  - {fact.caption}: N/A"

/-- The line of a label. -/
def labelLine (label : Label) : String := s!"  - {label.caption}: {label.value}"

theorem factLines_eq (facts : FactSheet) :
    factLines facts = Fact.all.map fun fact => factLine fact (facts.get fact) :=
  rfl

theorem labelLines_eq (labels : Labels) : labelLines labels = labels.toList.map labelLine := rfl

/-- A slash tells the facts without a value. -/
theorem slash_mem_factLine_iff (fact : Fact) (value : Option Float) :
    '/' ∈ (factLine fact value).toList ↔ value = none := by
  cases value with
  | none => cases fact <;> decide
  | some v =>
    have caption : '/' ∉ fact.caption.toList := by cases fact <;> decide
    have unit : '/' ∉ fact.unit.toList := by cases fact <;> decide
    have number : '/' ∉ (Number.text v).toList := (Printed.text v).not_mem rfl
    simp [factLine, toString, String.toList_append, caption, unit, number]

theorem factLine_injective {fact : Fact} {value value' : Option Float}
    (same : factLine fact value = factLine fact value') : value = value' := by
  have slash := slash_mem_factLine_iff fact value
  rw [same, slash_mem_factLine_iff] at slash
  cases value with
  | none => exact (slash.2 rfl).symm
  | some v =>
    cases value' with
    | none => cases slash.1 rfl
    | some v' =>
      simp only [factLine, toString, String.append_right_inj, String.append_left_inj] at same
      rw [Number.text_injective same]

theorem factLines_injective {facts facts' : FactSheet} (same : factLines facts = factLines facts') :
    facts = facts' := by
  rw [factLines_eq, factLines_eq, List.map_inj_left] at same
  exact FactSheet.ext_get fun fact => factLine_injective (same fact (Fact.mem_all fact))

theorem labelLine_injective {a b : Label} (same : labelLine a = labelLine b) : a = b := by
  have distinct : (Label.all.map labelLine).Nodup := by decide
  exact List.inj_on_of_nodup_map distinct (Label.mem_all a) (Label.mem_all b) same

theorem labelLines_injective {labels labels' : Labels}
    (same : labelLines labels = labelLines labels') : labels = labels' :=
  Labels.toList_injective (List.map_injective_iff.2 (fun _ _ => labelLine_injective) same)

/-! ### Rules -/

/-- The first line of a block. -/
def heading (number : ℕ) (r : Rule) : String :=
  let weight := s!"(priority: {Int.repr r.priority}, certainty: {Number.text r.certainty})"
  s!"{Nat.repr number}. Rule {r.id} {weight}"

theorem ruleLines_eq (number : ℕ) (r : Rule) :
    ruleLines number r =
      [heading number r, s!"   Category: {r.category.text}", s!"   -> {r.conclusion}",
        s!"   Why: {r.explanation}", ""] :=
  rfl

/-- What is said of the weight of a rule, behind the parenthesis. -/
def weight (r : Rule) : String :=
  "priority: " ++ Int.repr r.priority ++ String.singleton ','
    ++ (" certainty: " ++ Number.text r.certainty ++ ")")

theorem heading_eq (number : ℕ) (r : Rule) :
    heading number r =
      Nat.repr number ++ ". Rule " ++ r.id ++ " " ++ String.singleton '(' ++ weight r := by
  have opening : "(priority: " = String.singleton '(' ++ "priority: " := by decide
  have comma : ", certainty: " = String.singleton ',' ++ " certainty: " := by decide
  simp only [heading, weight, toString, opening, comma, String.append_assoc]

/-- A heading tells the rule: its weight begins at the last parenthesis that opens, and the priority
ends at the first comma behind it. -/
theorem heading_inj {number : ℕ} {r r' : Rule} (same : heading number r = heading number r') :
    r.id = r'.id ∧ r.priority = r'.priority ∧ r.certainty = r'.certainty := by
  have single (r : Rule) : '(' ∉ (weight r).toList := by
    have words : '(' ∉ "priority: ".toList ∧ '(' ∉ (String.singleton ',').toList ∧
      '(' ∉ " certainty: ".toList ∧ '(' ∉ ")".toList := by decide
    have priority : '(' ∉ (Int.repr r.priority).toList := (Printed.intRepr _).not_mem rfl
    have certainty : '(' ∉ (Number.text r.certainty).toList := (Printed.text _).not_mem rfl
    simp only [weight, String.toList_append, List.mem_append, words, priority, certainty, or_self,
      not_false_eq_true]
  have before (r : Rule) : ',' ∉ ("priority: " ++ Int.repr r.priority).toList := by
    have word : ',' ∉ "priority: ".toList := by decide
    have priority : ',' ∉ (Int.repr r.priority).toList := (Printed.intRepr _).not_mem rfl
    simp only [String.toList_append, List.mem_append, word, priority, or_self, not_false_eq_true]
  rw [heading_eq, heading_eq] at same
  obtain ⟨name, behind⟩ := Text.append_mark_inj_last (single r) (single r') same
  obtain ⟨priority, certainty⟩ := Text.append_mark_inj_first (before r) (before r') behind
  simp only [String.append_right_inj, String.append_left_inj] at name priority certainty
  exact ⟨name, Int.repr_injective priority, Number.text_injective certainty⟩

/-- A line that begins otherwise than with a digit is not the first line of a block. -/
theorem heading_ne {s : String} (other : s.toList.head?.any Char.isDigit = false) (number : ℕ)
    (r : Rule) : heading number r ≠ s := by
  rintro rfl
  have some : Nat.toDigits 10 number ≠ [] := Nat.toDigits_ne_nil
  obtain ⟨d, rest, digits⟩ := List.exists_cons_of_ne_nil some
  have digit : d.isDigit = true :=
    isDigit_of_mem_toDigits (digits ▸ List.mem_cons_self)
  have first : (Nat.repr number).toList = d :: rest := by
    rw [Nat.repr, String.toList_ofList, digits]
  simp [heading_eq, String.toList_append, first, digit] at other

theorem finding_of_ruleLines {number : ℕ} {r r' : Rule}
    (same : ruleLines number r = ruleLines number r') : r.finding = r'.finding := by
  simp only [ruleLines_eq, toString, List.cons.injEq, String.append_right_inj, and_true] at same
  obtain ⟨first, category, conclusion, explanation⟩ := same
  obtain ⟨id, priority, certainty⟩ := heading_inj first
  simp only [Rule.finding, id, priority, certainty, conclusion, explanation,
    Category.text_injective category]

/-- Blocks with rising numbers. -/
def blocks (number : ℕ) (rules : List Rule) : List String :=
  (rules.zipIdx number).flatMap fun (r, number) => ruleLines number r

theorem blocks_cons (number : ℕ) (r : Rule) (rules : List Rule) :
    blocks number (r :: rules) = ruleLines number r ++ blocks (number + 1) rules := by
  rw [blocks, List.zipIdx_cons, List.flatMap_cons, blocks]

/-- Blocks are told one by one, until the divider ends them. -/
theorem blocks_inj {rest rest' : List String} {rules rules' : List Rule} {number : ℕ}
    (same : blocks number rules ++ divider :: rest = blocks number rules' ++ divider :: rest') :
    rules.map Rule.finding = rules'.map Rule.finding ∧ rest = rest' := by
  induction rules generalizing rules' number with
  | nil =>
    cases rules' with
    | nil => exact ⟨rfl, List.tail_eq_of_cons_eq same⟩
    | cons r' rules' =>
      exact absurd (List.head_eq_of_cons_eq same).symm (heading_ne (by decide) number r')
  | cons r rules ih =>
    cases rules' with
    | nil => exact absurd (List.head_eq_of_cons_eq same) (heading_ne (by decide) number r)
    | cons r' rules' =>
      rw [blocks_cons, blocks_cons, List.append_assoc, List.append_assoc] at same
      obtain ⟨block, later⟩ := List.append_inj same rfl
      obtain ⟨findings, behind⟩ := ih later
      exact ⟨congrArg₂ List.cons (finding_of_ruleLines block) findings, behind⟩

theorem activatedLines_inj {rest rest' : List String} {rules rules' : List Rule}
    (same : activatedLines rules ++ divider :: rest = activatedLines rules' ++ divider :: rest') :
    rules.map Rule.finding = rules'.map Rule.finding ∧ rest = rest' := by
  cases rules with
  | nil =>
    cases rules' with
    | nil => exact ⟨rfl, by simpa [activatedLines] using same⟩
    | cons r' rules' =>
      exact absurd (List.head_eq_of_cons_eq same).symm (heading_ne (by decide) 1 r')
  | cons r rules =>
    cases rules' with
    | nil => exact absurd (List.head_eq_of_cons_eq same) (heading_ne (by decide) 1 r)
    | cons r' rules' => exact blocks_inj same

/-! ### Lines without line breaks -/

theorem unbroken_percentage (c : Float) : Unbroken (percentage c) :=
  Text.unbroken_append.2 ⟨(Printed.fixed 0 _).unbroken, by decide⟩

theorem unbroken_factLines (facts : FactSheet) : ∀ l ∈ factLines facts, Unbroken l := by
  rw [factLines_eq, List.forall_mem_map]
  intro fact _
  cases facts.get fact with
  | none => cases fact <;> decide
  | some v =>
    have caption : Unbroken fact.caption := by cases fact <;> decide
    have unit : Unbroken fact.unit := by cases fact <;> decide
    have words : Unbroken "  - " ∧ Unbroken ": " := by decide
    simp only [factLine, toString, Text.unbroken_append, caption, unit, words,
      (Printed.text v).unbroken, and_self]

theorem unbroken_labelLines (labels : Labels) : ∀ l ∈ labelLines labels, Unbroken l := by
  have all : ∀ label ∈ Label.all, Unbroken (labelLine label) := by decide
  rw [labelLines_eq, List.forall_mem_map]
  exact fun label _ => all label (Label.mem_all label)

theorem unbroken_heading (number : ℕ) {r : Rule} (id : Unbroken r.id) :
    Unbroken (heading number r) := by
  have words : Unbroken ". Rule " ∧ Unbroken " " ∧ Unbroken "(priority: " ∧
    Unbroken ", certainty: " ∧ Unbroken ")" := by decide
  simp only [heading, toString, Text.unbroken_append, words, id, (Printed.natRepr _).unbroken,
    (Printed.intRepr _).unbroken, (Printed.text _).unbroken, and_self]

theorem unbroken_ruleLines (number : ℕ) {r : Rule} (h : r.Unbroken) :
    ∀ l ∈ ruleLines number r, Unbroken l := by
  have category : Unbroken r.category.text := by cases r.category <;> decide
  have words : Unbroken "   Category: " ∧ Unbroken "   -> " ∧ Unbroken "   Why: " ∧
    Unbroken "" := by decide
  simp only [ruleLines_eq, toString, List.forall_mem_cons, Text.unbroken_append, words, category,
    unbroken_heading number h.id, h.conclusion, h.explanation, and_self, true_and]
  exact List.forall_mem_nil _

theorem unbroken_activatedLines {rules : List Rule} (h : ∀ r ∈ rules, r.Unbroken) :
    ∀ l ∈ activatedLines rules, Unbroken l := by
  unfold activatedLines
  split
  · exact List.forall_mem_cons.2 ⟨by decide, List.forall_mem_singleton.2 (by decide)⟩
  · intro l hl
    obtain ⟨⟨r, number⟩, hr, hl⟩ := List.mem_flatMap.1 hl
    exact unbroken_ruleLines number (h r (List.fst_mem_of_mem_zipIdx hr)) l hl

theorem unbroken_resultLines (e : Evaluation) : ∀ l ∈ resultLines e, Unbroken l := by
  have words : Unbroken "  - Visibility score: " ∧ Unbroken "  - Clickability score: " ∧
    Unbroken "  - Overall certainty (CF): " ∧ Unbroken "/100" ∧ Unbroken "" := by decide
  simp only [resultLines, toString, List.forall_mem_cons, Text.unbroken_append, words,
    (Printed.natRepr _).unbroken, unbroken_percentage, and_self, true_and]
  exact List.forall_mem_nil _

theorem unbroken_assessmentLines (e : Evaluation) : ∀ l ∈ assessmentLines e, Unbroken l := by
  have grade (g : Grade) : Unbroken g.text := by cases g <;> decide
  have words : Unbroken "  - CTA visibility: " ∧ Unbroken "  - CTA clickability: " ∧
    Unbroken "" := by decide
  simp only [assessmentLines, toString, List.forall_mem_cons, Text.unbroken_append, words, grade,
    and_self, true_and]
  exact List.forall_mem_nil _

theorem unbroken_recommendationLines {recommendations : List String}
    (h : ∀ s ∈ recommendations, Unbroken s) :
    ∀ l ∈ recommendationLines recommendations, Unbroken l := by
  unfold recommendationLines
  split
  · exact List.forall_mem_singleton.2 (by decide)
  · rw [List.forall_mem_map]
    intro (s, number) hs
    have word : Unbroken ". " ∧ Unbroken "" := by decide
    simp only [toString, Text.unbroken_append, word, (Printed.natRepr _).unbroken,
      h s (List.fst_mem_of_mem_zipIdx hs), and_self]

/-! ### The trace -/

/-- The lines before the activated rules; they are as many in every trace. -/
def opening (facts : FactSheet) (labels : Labels) : List String :=
  ["Reasoning trace", divider, "", "Input facts (quantitative):"] ++ factLines facts
    ++ (["", "Derived facts (qualitative):"] ++ labelLines labels
      ++ ["", "Activated rules (by priority):", ""])

/-- The lines behind the scores. -/
def closing (e : Evaluation) : List String :=
  s!"  - Overall certainty (CF): {percentage e.certainty}"
    :: (["", "Assessment:"] ++ assessmentLines e
      ++ ["", divider, "Prioritized recommendations:", ""] ++ recommendationLines e.recommendations)

/-- The line of a score. -/
def scoreLine (caption : String) (score : ℕ) : String := s!"{caption}{Nat.repr score}/100"

theorem lines_eq (facts : FactSheet) (e : Evaluation) :
    lines facts e =
      opening facts e.labels
        ++ (activatedLines e.activated
          ++ divider :: "Results:" :: "" :: scoreLine "  - Visibility score: " e.visibility.score
            :: scoreLine "  - Clickability score: " e.clickability.score :: closing e) := by
  simp only [lines, opening, closing, resultLines, scoreLine, List.append_assoc, List.cons_append,
    List.nil_append]

theorem scoreLine_injective {caption : String} {score score' : ℕ}
    (same : scoreLine caption score = scoreLine caption score') : score = score' := by
  simp only [scoreLine, toString, String.append_right_inj, String.append_left_inj] at same
  exact Nat.repr_injective same

theorem opening_inj {facts facts' : FactSheet} {labels labels' : Labels}
    (same : opening facts labels = opening facts' labels') : facts = facts' ∧ labels = labels' := by
  have facts_length (facts : FactSheet) : (factLines facts).length = 17 := by
    rw [factLines_eq, List.length_map, Fact.length_all]
  obtain ⟨first, second⟩ := List.append_inj same (by simp [facts_length])
  have facts_same := List.append_cancel_left first
  have labels_same := List.append_cancel_left (List.append_cancel_right second)
  exact ⟨factLines_injective facts_same, labelLines_injective labels_same⟩

theorem lines_tell {facts facts' : FactSheet} {e e' : Evaluation}
    (same : lines facts e = lines facts' e') :
    facts = facts' ∧ e.labels = e'.labels ∧
      e.activated.map Rule.finding = e'.activated.map Rule.finding ∧
      e.visibility.score = e'.visibility.score ∧ e.clickability.score = e'.clickability.score := by
  have length (facts : FactSheet) (labels : Labels) : (opening facts labels).length = 32 := by
    simp [opening, factLines_eq, labelLines_eq, Labels.toList]
  rw [lines_eq, lines_eq] at same
  obtain ⟨first, later⟩ := List.append_inj same (by rw [length, length])
  obtain ⟨facts_same, labels_same⟩ := opening_inj first
  obtain ⟨findings, behind⟩ := activatedLines_inj later
  simp only [List.cons.injEq, true_and] at behind
  obtain ⟨visibility, clickability, -⟩ := behind
  exact ⟨facts_same, labels_same, findings, scoreLine_injective visibility,
    scoreLine_injective clickability⟩

theorem unbroken_lines (facts : FactSheet) {e : Evaluation} (h : ∀ r ∈ e.activated, r.Unbroken) :
    ∀ l ∈ lines facts e, Unbroken l := by
  have recommended : ∀ s ∈ e.recommendations, Unbroken s := by
    intro s hs
    obtain ⟨r, hr, rfl⟩ := List.mem_map.1 hs
    exact (h r (List.mem_of_mem_take hr)).conclusion
  have captions : ∀ l ∈ ["Reasoning trace", divider, "", "Input facts (quantitative):",
      "Derived facts (qualitative):", "Activated rules (by priority):", "Results:", "Assessment:",
      "Prioritized recommendations:"], Unbroken l := by decide
  simp only [List.forall_mem_cons] at captions
  simp only [lines, List.forall_mem_append, List.forall_mem_cons, captions, List.not_mem_nil,
    false_implies, implies_true, and_self, and_true, true_and]
  exact ⟨⟨⟨⟨⟨unbroken_factLines facts, unbroken_labelLines e.labels⟩, unbroken_activatedLines h⟩,
    unbroken_resultLines e⟩, unbroken_assessmentLines e⟩, unbroken_recommendationLines recommended⟩

end Reasoning

/-- The recommendations are part of the findings. -/
theorem Evaluation.recommendations_of_findings {e e' : Evaluation}
    (same : e.activated.map Rule.finding = e'.activated.map Rule.finding) :
    e.recommendations = e'.recommendations := by
  have conclusions (e : Evaluation) :
      e.recommendations = ((e.activated.map Rule.finding).map Finding.conclusion).take
        Evaluation.maxRecommendations := by
    rw [Evaluation.recommendations, List.map_take, List.map_map]
    rfl
  rw [conclusions, conclusions, same]

/-- **A trace loses nothing.**  If the traces of two evaluations are one text, by knowledge bases
whose texts have no line breaks, then the same facts were put in, with the same values, and the same
labels were derived from them; the same findings were made, in the same order, with the same scores
and the same recommendations. -/
theorem KnowledgeBase.trace_tells {kb kb' : KnowledgeBase} {facts facts' : FactSheet}
    (unbroken : ∀ r ∈ kb.rules, r.Unbroken) (unbroken' : ∀ r ∈ kb'.rules, r.Unbroken)
    (same : Reasoning.trace facts (kb.evaluate facts) =
      Reasoning.trace facts' (kb'.evaluate facts')) :
    facts = facts' ∧
      (kb.evaluate facts).labels = (kb'.evaluate facts').labels ∧
      (kb.evaluate facts).activated.map Rule.finding =
        (kb'.evaluate facts').activated.map Rule.finding ∧
      (kb.evaluate facts).visibility.score = (kb'.evaluate facts').visibility.score ∧
      (kb.evaluate facts).clickability.score = (kb'.evaluate facts').clickability.score ∧
      (kb.evaluate facts).recommendations = (kb'.evaluate facts').recommendations := by
  have lines_unbroken {kb : KnowledgeBase} (h : ∀ r ∈ kb.rules, r.Unbroken) (facts : FactSheet) :
      ∀ l ∈ Reasoning.lines facts (kb.evaluate facts), Unbroken l :=
    Reasoning.unbroken_lines facts fun r hr => h r ((mem_activated_iff kb facts r).1 hr).1
  have told := Reasoning.lines_tell
    (Text.terminated_inj (lines_unbroken unbroken facts) (lines_unbroken unbroken' facts') same)
  obtain ⟨facts_same, labels, findings, visibility, clickability⟩ := told
  exact ⟨facts_same, labels, findings, visibility, clickability,
    Evaluation.recommendations_of_findings findings⟩

/-- A rule whose identifier imitates the weight of a rule, with another one beside it that does not
hold.  Both knowledge bases find the same, so the traces are one text. -/
theorem KnowledgeBase.trace_tells_imitation :
    let r : Rule :=
      { id := "V1 (priority: 9, certainty: 1)", priority := 2, certainty := 0.5
        condition := .fact .contrast ⟨.less, 3⟩
        conclusion := "2. Rule V2 (priority: 1", explanation := "", category := .visibility }
    let q : Rule := { r with condition := .fact .contrast ⟨.greater, 3⟩ }
    let facts : FactSheet := .ofList [(.contrast, 2)]
    Reasoning.trace facts (evaluate ⟨[r, q]⟩ facts) = Reasoning.trace facts (evaluate ⟨[r]⟩ facts) ∧
      (evaluate ⟨[r, q]⟩ facts).activated.map Rule.finding =
        (evaluate ⟨[r]⟩ facts).activated.map Rule.finding := by
  intro r q facts
  have holds : r.outcome (.ofFacts facts) = .activated := by decide +kernel
  have fails : q.outcome (.ofFacts facts) = .notActivated := by decide +kernel
  have same : evaluate ⟨[r, q]⟩ facts = evaluate ⟨[r]⟩ facts := by
    simp [evaluate, Rule.error?, holds, fails]
  have texts : r.Unbroken := ⟨by decide +kernel, by decide +kernel, by decide +kernel⟩
  have texts' : q.Unbroken := ⟨texts.id, texts.conclusion, texts.explanation⟩
  have unbroken : ∀ p ∈ (⟨[r, q]⟩ : KnowledgeBase).rules, p.Unbroken :=
    List.forall_mem_cons.2 ⟨texts, List.forall_mem_singleton.2 texts'⟩
  have unbroken' : ∀ p ∈ (⟨[r]⟩ : KnowledgeBase).rules, p.Unbroken :=
    List.forall_mem_singleton.2 texts
  have trace : Reasoning.trace facts (evaluate ⟨[r, q]⟩ facts) =
      Reasoning.trace facts (evaluate ⟨[r]⟩ facts) := by rw [same]
  exact ⟨trace, (trace_tells unbroken unbroken' trace).2.2.1⟩

end CallToAction
