import CallToAction.Proofs.CommandLine.Layering
import CallToAction.Proofs.Evaluation.Ranking
import CallToAction.Proofs.Rule.Condition

/-!
# Failed rules of a report

A page is reported only if its facts are valid, so a rule can fail on a fact that is absent but on
none that is not finite.  An absent fact is absent from every layer, and with the input defaults
among the layers there is none.

* `KnowledgeBase.analyzeValid_eq_ok_iff`: when facts lead to a report;
* `KnowledgeBase.missing_of_failed`: why a rule fails on valid facts;
* `Source.failed_of_analyze`: why the rules of a report failed.
-/

namespace CallToAction

theorem FactSheet.complaints_eq_nil_iff (scope : String) (s : FactSheet) :
    s.complaints scope = [] ↔ s.violations = [] := List.map_eq_nil_iff

namespace KnowledgeBase

variable (kb : KnowledgeBase) {facts : FactSheet}

theorem analyzeValid_eq_ok_iff (report : Report) :
    kb.analyzeValid facts = .ok report ↔ facts.violations = [] ∧ kb.analyze facts = report := by
  rw [← FactSheet.complaints_eq_nil_iff ""]
  cases found : facts.complaints "" <;> simp [analyzeValid, found]

/-- On valid facts a rule fails on a fact of its condition that is absent. -/
theorem missing_of_failed (valid : facts.violations = []) {r : Rule} {e : EvaluationError}
    (h : (r, e) ∈ (kb.evaluate facts).failed) :
    r ∈ kb.rules ∧ ∃ key ∈ r.condition.facts, e = .missing key ∧ facts.get key = none := by
  obtain ⟨declared, failed⟩ := (mem_failed_iff _ _ _ _).1 h
  obtain ⟨key, occurs, unread⟩ := Condition.exists_fact_of_evaluate_eq_error _ failed
  obtain ⟨absent, cause⟩ := FactSheet.missing_of_error valid unread
  exact ⟨declared, key, occurs, cause, absent⟩

end KnowledgeBase

theorem Source.analyze_eq_ok_iff {kb : KnowledgeBase} {layers : Layers} {inputs : Inputs}
    {source : Source} (report : Report) :
    source.analyze kb layers inputs = .ok report ↔
      ∃ page, source.read inputs = .ok page ∧
        kb.analyzeValid (layers.around page) = .ok report := by
  unfold Source.analyze
  cases source.read inputs <;> simp

open CommandLine in
/-- **The rules of a report failed on facts that no layer has.**  The fact occurs in the condition
of the rule, and it is absent from the input defaults in use, the settings, the page and the
overrides.  So no rule fails on a fact that is not finite, and no rule fails at all unless sparse
facts are asked for. -/
theorem Source.failed_of_analyze (kb : KnowledgeBase) (request : AnalysisRequest)
    (settings : Settings) (overrides : FactSheet) (inputs : Inputs) (source : Source)
    (report : Report)
    (h : source.analyze kb ⟨request.baseline settings, overrides⟩ inputs = .ok report) :
    ∃ page facts, source.read inputs = .ok page ∧
      facts = Layers.around ⟨request.baseline settings, overrides⟩ page ∧
      report = kb.analyze facts ∧
      report.diagnostics.failed =
        (kb.evaluate facts).failed.map (fun (r, e) => (r.id, e.message)) ∧
      (∀ r e, (r, e) ∈ (kb.evaluate facts).failed →
        r ∈ kb.rules ∧ r.condition.evaluate (.ofFacts facts) = .error e ∧
          ∃ key ∈ r.condition.facts, e = .missing key ∧
            request.builtIn key = none ∧ settings.below key = none ∧ page.get key = none ∧
            overrides.get key = none) ∧
      (request.sparse = false → report.diagnostics.failed = []) := by
  obtain ⟨page, read, analyzed⟩ := (Source.analyze_eq_ok_iff _).1 h
  obtain ⟨valid, rfl⟩ := (kb.analyzeValid_eq_ok_iff _).1 analyzed
  set facts := Layers.around ⟨request.baseline settings, overrides⟩ page with layered
  have reasons (r : Rule) (e : EvaluationError) (hr : (r, e) ∈ (kb.evaluate facts).failed) :
      r ∈ kb.rules ∧ r.condition.evaluate (.ofFacts facts) = .error e ∧
        ∃ key ∈ r.condition.facts, e = .missing key ∧
          request.builtIn key = none ∧ settings.below key = none ∧ page.get key = none ∧
          overrides.get key = none := by
    obtain ⟨declared, key, occurs, cause, absent⟩ := kb.missing_of_failed valid hr
    rw [layered, Layers.get_around, AnalysisRequest.get_baseline] at absent
    simp only [Option.or_eq_none_iff] at absent
    obtain ⟨above, given, below, builtIn⟩ := absent
    exact ⟨declared, ((KnowledgeBase.mem_failed_iff _ _ _ _).1 hr).2, key, occurs, cause, builtIn,
      below, given, above⟩
  refine ⟨page, facts, read, rfl, rfl, rfl, reasons, fun complete => ?_⟩
  -- with the input defaults below, no fact is absent
  have none : (kb.evaluate facts).failed = [] := by
    refine List.eq_nil_iff_forall_not_mem.2 fun ⟨r, e⟩ hr => ?_
    obtain ⟨-, -, key, -, -, builtIn, -⟩ := reasons r e hr
    simp [AnalysisRequest.builtIn, complete] at builtIn
  show (kb.evaluate facts).failed.map _ = []
  rw [none, List.map_nil]

open CommandLine in
/-- A nested condition that fails on the one fact that is absent. -/
theorem Source.failed_of_analyze_nested :
    let r : Rule :=
      ⟨"A", 0, 0.75,
        .all [.lessThan .width 180, .any [.lessThan .height 44, .moreThan .position 800]],
        "a", "a", .visibility⟩
    let kb : KnowledgeBase := ⟨[r]⟩
    let request : AnalysisRequest := ⟨[], [], none, false, true, none⟩
    let settings : Settings := ⟨.unset, some (.ofList [(.height, 50)])⟩
    let overrides : FactSheet := .ofList [(.width, 150)]
    let facts := Layers.around ⟨request.baseline settings, overrides⟩ .empty
    Source.inline.analyze kb ⟨request.baseline settings, overrides⟩ ⟨.empty, ""⟩ =
        .ok (kb.analyze facts) ∧
      (r, .missing .position) ∈ (kb.evaluate facts).failed ∧
      settings.below .position = none ∧ overrides.get .position = none := by
  intro r kb request settings overrides facts
  have valid : facts.violations = [] := by decide +kernel
  have analyzed : Source.inline.analyze kb ⟨request.baseline settings, overrides⟩ ⟨.empty, ""⟩ =
      .ok (kb.analyze facts) :=
    (Source.analyze_eq_ok_iff _).2 ⟨.empty, rfl, (kb.analyzeValid_eq_ok_iff _).2 ⟨valid, rfl⟩⟩
  obtain ⟨_, _, ⟨⟩, rfl, -, -, reasons, -⟩ :=
    Source.failed_of_analyze kb request settings overrides ⟨.empty, ""⟩ .inline _ analyzed
  have failed : (r, .missing .position) ∈ (kb.evaluate facts).failed :=
    (KnowledgeBase.mem_failed_iff _ _ _ _).2 ⟨List.mem_singleton_self _, by decide +kernel⟩
  obtain ⟨-, -, key, -, cause, -, below, -, above⟩ := reasons r (.missing .position) failed
  cases cause
  exact ⟨analyzed, failed, below, above⟩

end CallToAction
