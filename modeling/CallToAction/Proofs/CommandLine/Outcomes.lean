import CallToAction.CommandLine.Run
import CallToAction.Proofs.Batch.Interleaving
import CallToAction.Proofs.FactSheet.Assignment

/-!
# Outcomes of an analysis

An analysis has outcomes if every assignment is well formed and the inputs are sources.  Then it has
one outcome for each source, with the same layers around all pages.

* `bind_eq_ok_iff`, `bind_eq_error_iff`: how a chain of stages succeeds and fails;
* `AnalysisRequest.outcomes_eq_ok_iff`: when an analysis has outcomes, and which;
* `AnalysisRequest.status_of_outcomes`: an analysis without outcomes failed on what was put in.
-/

namespace CallToAction.CommandLine

/-! ### Stages -/

section Stages

variable {α β ε : Type} {x : Except ε α} {f : α → Except ε β}

theorem bind_eq_ok_iff {b : β} : x >>= f = .ok b ↔ ∃ a, x = .ok a ∧ f a = .ok b := by
  cases x with
  | error e => simp [bind, Except.bind]
  | ok a => simp [bind, Except.bind]

theorem bind_eq_error_iff {e : ε} :
    x >>= f = .error e ↔ x = .error e ∨ ∃ a, x = .ok a ∧ f a = .error e := by
  cases x with
  | error e => simp [bind, Except.bind]
  | ok a => simp [bind, Except.bind]

end Stages

/-! ### Analyses -/

namespace AnalysisRequest

open Assignment (WellFormed)

/-- What is layered around every page, where each assignment is well formed. -/
def layers (request : AnalysisRequest) (settings : Settings) : Layers :=
  ⟨request.baseline settings, .assigned request.assignments⟩

variable {request : AnalysisRequest} {kb : KnowledgeBase} {settings : Settings} {inputs : Inputs}
  {f : Failure}

theorem overrides_eq_ok_iff (facts : FactSheet) :
    request.overrides = .ok facts ↔
      (∀ text ∈ request.assignments, WellFormed text) ∧
        FactSheet.assigned request.assignments = facts := by
  rw [← FactSheet.ofAssignments_eq_ok_iff]
  unfold overrides
  cases FactSheet.ofAssignments request.assignments <;> simp

theorem status_of_overrides (h : request.overrides = .error f) : f.status = .invalidInput := by
  unfold overrides at h
  split at h
  · cases h
  · cases h
    rfl

theorem sources_eq_ok_iff (files : FileTree) (sources : List Source) :
    request.sources files = .ok sources ↔ Source.ofInputs files request.inputs = .ok sources := by
  unfold AnalysisRequest.sources
  cases Source.ofInputs files request.inputs <;> simp

theorem status_of_sources {files : FileTree} (h : request.sources files = .error f) :
    f.status = .invalidInput := by
  unfold AnalysisRequest.sources at h
  split at h
  · cases h
  · cases h
    rfl

/-- An analysis has one outcome for each source. -/
theorem outcomes_eq_ok_iff (os : List PageOutcome) :
    request.outcomes kb settings inputs = .ok os ↔
      (∀ text ∈ request.assignments, WellFormed text) ∧
        ∃ sources, Source.ofInputs inputs.files request.inputs = .ok sources ∧
          os = sources.map (Batch.outcome kb (request.layers settings) inputs) := by
  unfold outcomes
  simp only [bind_eq_ok_iff, overrides_eq_ok_iff, sources_eq_ok_iff, Batch.analyze_eq_map]
  constructor
  · rintro ⟨facts, ⟨wellFormed, rfl⟩, sources, found, whole⟩
    exact ⟨wellFormed, sources, found, (Except.ok.inj whole).symm⟩
  · rintro ⟨wellFormed, sources, found, rfl⟩
    exact ⟨_, ⟨wellFormed, rfl⟩, sources, found, rfl⟩

/-- An analysis without outcomes failed on what was put in. -/
theorem status_of_outcomes (h : request.outcomes kb settings inputs = .error f) :
    f.status = .invalidInput := by
  unfold outcomes at h
  rcases bind_eq_error_iff.1 h with above | ⟨facts, -, h⟩
  · exact status_of_overrides above
  · rcases bind_eq_error_iff.1 h with found | ⟨sources, -, whole⟩
    · exact status_of_sources found
    · cases whole

end AnalysisRequest

end CallToAction.CommandLine
