import CallToAction.Proofs.CommandLine.Outcomes
import CallToAction.Proofs.FactSheet.Malformed

/-!
# Overrides of an analysis

An analysis carries its assignments out before it looks for its inputs.  If each of them is written
as an assignment, the analysis goes on with what they assign; otherwise it ends and tells what is
wrong with every one that is not.

* `overrides_of_reports_nil`, `overrides_of_reports`: what the assignments of an analysis come to;
* `overrides_outcome`: what each assignment does to a sheet, and what all of them do to an analysis.
-/

namespace CallToAction.CommandLine.AnalysisRequest

open Assignment

variable {request : AnalysisRequest} {errors : List (String × Assignment.Error)}

theorem overrides_of_reports_nil (reports : Reports request.assignments []) :
    request.overrides = .ok (FactSheet.run .empty (request.assignments.map .assign)) := by
  rw [overrides, FactSheet.ofAssignments_eq, ← reports.eq_filterMap, FactSheet.assigned_eq_run]
  rfl

theorem overrides_of_reports (reports : Reports request.assignments errors) (some : errors ≠ []) :
    request.overrides = .error (.assignments errors) := by
  have reported : errors.isEmpty = false := List.isEmpty_eq_false_iff.2 some
  rw [overrides, FactSheet.ofAssignments_eq, ← reports.eq_filterMap, reported]
  rfl

/-- With assignments that are all well formed, an analysis depends on its sources alone. -/
theorem outcomes_of_reports_nil (kb : KnowledgeBase) (settings : Settings) (inputs : Inputs)
    (reports : Reports request.assignments []) :
    request.outcomes kb settings inputs =
      (request.sources inputs.files).map (Batch.analyze kb
        ⟨request.baseline settings, .run .empty (request.assignments.map .assign)⟩ inputs) := by
  rw [outcomes, overrides_of_reports_nil reports]
  cases request.sources inputs.files <;> rfl

theorem run_of_reports (kb : KnowledgeBase) (s : Surroundings) (settings : Settings)
    (verbose : Bool) (reports : Reports request.assignments errors) (some : errors ≠ []) :
    request.run kb s settings verbose =
      (Failure.assignments errors).response "" s.inputs.files := by
  rw [run, outcomes, overrides_of_reports reports some]
  rfl

theorem line_eq (text : String) (e : Assignment.Error) :
    "  - " ++ s!"--set {text}: {e.message}" = s!"  - --set {text}: {e.message}" := by
  have marks : "  - " ++ "--set " = "  - --set " := by decide +kernel
  show "  - " ++ ("--set " ++ text ++ ": " ++ e.message) =
    "  - --set " ++ text ++ ": " ++ e.message
  rw [← marks]
  simp only [String.append_assoc]

/-- What an analysis prints if some of its assignments are malformed. -/
theorem response_assignments (errors : List (String × Assignment.Error)) (files : FileTree) :
    (Failure.assignments errors).response "" files =
      ⟨.invalidInput, "", Text.lines ("Invalid overrides:" ::
        errors.map fun (text, e) => s!"  - --set {text}: {e.message}") ++ "\n", files⟩ := by
  have lines : (errors.map fun (text, e) => s!"--set {text}: {e.message}").map ("  - " ++ ·) =
      errors.map fun (text, e) => s!"  - --set {text}: {e.message}" := by
    rw [List.map_map]
    exact List.map_congr_left fun (text, e) _ => line_eq text e
  show (⟨.invalidInput, "", "" ++ Text.lines ("Invalid overrides:" ::
    (errors.map fun (text, e) => s!"--set {text}: {e.message}").map ("  - " ++ ·)) ++ "\n",
      files⟩ : Response) = _
  rw [lines, String.empty_append]

/-- **Assignments and overrides.**  An assignment sets its fact to the number nearest to its literal
and leaves the other facts alone, and a text that is none leaves the sheet as it is.  If all texts
of an analysis are assignments the analysis goes on with what they assign, one after another;
otherwise it prints what is wrong with each that is none, in order, and does nothing else. -/
theorem overrides_outcome (request : AnalysisRequest) (kb : KnowledgeBase) (s : Surroundings)
    (settings : Settings) (verbose : Bool) :
    (∀ (sheet : FactSheet) (text : String),
      (∃ key l, Writes text key l ∧ l.Denotes (Binary64.ofFloat l.toFloat) ∧
          sheet.carryOut text = (sheet.set key l.toFloat, .ok ()) ∧
          sheet.assignText text = .ok (sheet.set key l.toFloat) ∧
          sheet.after (.assign text) = sheet.set key l.toFloat ∧
          (sheet.set key l.toFloat).get key = some l.toFloat ∧
          ∀ other, other ≠ key → (sheet.set key l.toFloat).get other = sheet.get other) ∨
        (∀ key l, ¬ Writes text key l) ∧ ∃ e, Malformed text e ∧
          sheet.carryOut text = (sheet, .error e) ∧
          sheet.assignText text = .error e ∧ sheet.after (.assign text) = sheet) ∧
    ∃ errors, (∀ reported, Reports request.assignments reported ↔ reported = errors) ∧
      (errors = [] ↔ ∀ text ∈ request.assignments, ∃ key l, Writes text key l) ∧
      (errors = [] → request.outcomes kb settings s.inputs =
        (request.sources s.inputs.files).map (Batch.analyze kb
          ⟨request.baseline settings, .run .empty (request.assignments.map .assign)⟩ s.inputs)) ∧
      (errors ≠ [] → request.run kb s settings verbose =
        ⟨.invalidInput, "", Text.lines ("Invalid overrides:" ::
          errors.map fun (text, e) => s!"  - --set {text}: {e.message}") ++ "\n",
          s.inputs.files⟩) := by
  refine ⟨fun sheet text => ?_, request.assignments.filterMap fault?, fun reported => reports_iff,
    filterMap_fault?_eq_nil_iff_writes _, fun none => ?_, fun some => ?_⟩
  · cases read : ofText text with
    | ok a =>
      obtain ⟨l, writes, -⟩ := ofText_eq_ok_iff_writes.1 read
      have done := sheet.carryOut_of_writes writes
      refine .inl ⟨a.fact, l, writes, l.denotes_toFloat, done, ?_, ?_, sheet.get_set_self _ _,
        fun other apart => sheet.get_set_of_ne _ apart⟩
      · rw [FactSheet.assignText, done]
      · exact sheet.after_assign (assigns_iff.2 ⟨l, writes, rfl⟩)
    | error e =>
      have malformed := ofText_eq_error_iff.1 read
      have failed := sheet.carryOut_of_malformed malformed
      refine .inr ⟨fun key l writes => ?_, e, malformed, failed, ?_,
        sheet.after_assign_of_error read⟩
      · cases read.symm.trans (ofText_of_writes writes)
      · rw [FactSheet.assignText, failed]
  · refine outcomes_of_reports_nil kb settings s.inputs ?_
    rw [← none]
    exact reports_filterMap _
  · rw [run_of_reports kb s settings verbose (reports_filterMap _) some, response_assignments]

/-- A name and a literal may have any white space around them, but a text is split at its first
equals sign. -/
theorem overrides_outcome_mixed :
    let written := "\u00a0scroll_depth\t=\u2003+4.E1"
    let texts := ["scroll_depth", written, "page_color=1", "cta_width=1=2", "cta_height= "]
    let request (texts : List String) : AnalysisRequest :=
      ⟨["-"], texts, none, false, false, none⟩
    let settings : Settings := ⟨.unset, none⟩
    let s : Surroundings := ⟨⟨.empty, ""⟩, "home", none, false⟩
    (Writes written .scrollDepth (.decimal false 4 1) ∧
      (FactSheet.defaults.after (.assign written)).get .scrollDepth = some 40 ∧
      (FactSheet.defaults.after (.assign written)).get .width = some 200) ∧
    ((request [written]).outcomes .standard settings s.inputs =
      ((request [written]).sources s.inputs.files).map (Batch.analyze .standard
        ⟨(request [written]).baseline settings, .run .empty [.assign written]⟩ s.inputs)) ∧
    (request texts).run .standard s settings true =
      ⟨.invalidInput, "",
        "Invalid overrides:\n  - --set scroll_depth: Expected key=value, got 'scroll_depth'\n" ++
        "  - --set page_color=1: Unknown fact 'page_color'\n" ++
        "  - --set cta_width=1=2: Invalid number for cta_width: '1=2': invalid float literal\n" ++
        "  - --set cta_height= : Invalid number for cta_height: '': " ++
        "cannot parse float from empty string\n", .empty⟩ := by
  intro written texts request settings s
  have writes : Writes written .scrollDepth (.decimal false 4 1) := by
    refine ⟨"\u00a0scroll_depth\t".toList, "\u2003+4.E1".toList, "+4.E1".toList, by decide +kernel,
      by decide +kernel, ?_, ?_, ?_⟩
    · exact Text.trim_eq_iff.1 (by decide +kernel)
    · exact Text.trim_eq_iff.1 (by decide +kernel)
    · exact Literal.ofText?_eq_some_iff.1 (by decide +kernel)
  have forty : (Literal.decimal false 4 1).toFloat = 40 := by decide +kernel
  have read : ofText written = .ok ⟨.scrollDepth, 40⟩ :=
    ofText_eq_ok_iff_writes.2 ⟨_, writes, forty.symm⟩
  refine ⟨⟨writes, ?_⟩, ?_, ?_⟩
  · obtain ⟨each, -⟩ := overrides_outcome (request []) .standard s settings true
    rcases each .defaults written with
      ⟨key, l, given, -, -, -, after_eq, get_eq, others⟩ | ⟨none, -⟩
    · have same := read.symm.trans (ofText_of_writes given)
      obtain ⟨rfl, value⟩ := Assignment.mk.inj (Except.ok.inj same)
      rw [after_eq, get_eq, others .width (by decide), ← value]
      exact ⟨rfl, rfl⟩
    · exact absurd writes (none _ _)
  · obtain ⟨-, errors, -, nothing, goesOn, -⟩ :=
      overrides_outcome (request [written]) .standard s settings true
    refine goesOn (nothing.2 fun text member => ?_)
    obtain rfl := List.mem_singleton.1 member
    exact ⟨_, _, writes⟩
  · obtain ⟨-, errors, settled, -, -, stops⟩ :=
      overrides_outcome (request texts) .standard s settings true
    have reports : Reports texts
        [("scroll_depth", .noEquals "scroll_depth"), ("page_color=1", .unknownFact "page_color"),
          ("cta_width=1=2", .invalidNumber .width "1=2" .invalid),
          ("cta_height= ", .invalidNumber .height "" .empty)] :=
      reports_iff.2 (by decide +kernel)
    obtain rfl := (settled _).1 reports
    refine (stops (List.cons_ne_nil _ _)).trans ?_
    decide +kernel

end CallToAction.CommandLine.AnalysisRequest
