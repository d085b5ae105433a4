import CallToAction.Proofs.CommandLine.ExitStatus
import CallToAction.Proofs.Evaluation.Failure
import CallToAction.Proofs.FactSheet.Complaints

/-!
# Invalid facts of a page

The facts below those of every page are valid under settings that hold, so what a page is refused
for was said by the page itself or by an assignment.

* `Source.analyze_eq_invalidFacts_iff`: when a page is refused for its facts;
* `AnalysisRequest.violations_baseline`: nothing is wrong below the pages;
* `AnalysisRequest.complaints_traced`: where the values come from that a page is refused for.
-/

namespace CallToAction

open Assignment (last?)

/-! ### Refused pages -/

theorem KnowledgeBase.analyzeValid_eq_invalidFacts_iff (kb : KnowledgeBase) (facts : FactSheet)
    (lines : List String) :
    kb.analyzeValid facts = .error (.invalidFacts lines) ↔
      lines ≠ [] ∧ facts.complaints "" = lines := by
  unfold analyzeValid
  cases found : facts.complaints "" with
  | nil =>
    simp only [reduceCtorEq, false_iff, not_and]
    exact fun some none => some none.symm
  | cons first rest =>
    rw [Except.error.injEq, PageError.invalidFacts.injEq]
    refine ⟨fun same => ⟨same ▸ List.cons_ne_nil _ _, same⟩, fun h => h.2⟩

namespace Source

variable {kb : KnowledgeBase} {layers : Layers} {inputs : Inputs} {source : Source}

/-- A source that cannot be read is not refused for its facts. -/
theorem read_ne_invalidFacts (lines : List String) :
    source.read inputs ≠ .error (.invalidFacts lines) := by
  intro h
  cases source with
  | inline => cases h
  | standardInput =>
    simp only [read] at h
    split at h <;> cases h
  | file path =>
    simp only [read] at h
    split at h
    · cases h
    · split at h <;> cases h

/-- A page is refused for its facts if there are complaints about them, between its layers. -/
theorem analyze_eq_invalidFacts_iff (lines : List String) :
    source.analyze kb layers inputs = .error (.invalidFacts lines) ↔
      ∃ page, source.read inputs = .ok page ∧ lines ≠ [] ∧
        (layers.around page).complaints "" = lines := by
  unfold analyze
  cases read : source.read inputs with
  | error e =>
    refine iff_of_false (fun refused => ?_) (by simp)
    exact read_ne_invalidFacts lines (read.trans (congrArg _ (Except.error.inj refused)))
  | ok page =>
    refine (kb.analyzeValid_eq_invalidFacts_iff _ lines).trans ⟨fun h => ⟨page, rfl, h⟩, ?_⟩
    rintro ⟨other, same, refused⟩
    obtain rfl := Except.ok.inj same
    exact refused

end Source

namespace CommandLine.AnalysisRequest

/-! ### Below the pages -/

variable {request : AnalysisRequest} {settings : Settings}

/-- Nothing is wrong below the pages under settings that are in range. -/
theorem violations_baseline (inRange : settings.complaints = []) :
    (request.baseline settings).violations = [] := by
  have builtIn : (if request.sparse then FactSheet.empty else .defaults).violations = [] := by
    split_ifs
    · exact FactSheet.violations_empty
    · exact FactSheet.violations_defaults
  have below : (settings.defaults.getD .empty).violations = [] := by
    obtain ⟨-, inRange⟩ := List.append_eq_nil_iff.1 inRange
    cases given : settings.defaults with
    | none => exact FactSheet.violations_empty
    | some sheet =>
      rw [given] at inRange
      exact (FactSheet.complaints_eq_nil_iff "defaults" sheet).1 inRange
  exact FactSheet.violations_overlay_eq_nil builtIn below

/-- A value that offends, between the layers of a page, is that of an assignment or of the page. -/
theorem get_of_violation (inRange : settings.complaints = []) {page : FactSheet} {key : Fact}
    {v : Float} {violation : Violation}
    (value : ((request.layers settings).around page).get key = some v)
    (wrong : key.violation? v = some violation) :
    last? request.assignments key = some v ∨
      last? request.assignments key = none ∧ page.get key = some v := by
  have assigned : (request.layers settings).overrides.get key = last? request.assignments key :=
    FactSheet.get_assigned _ key
  rw [Layers.get_around, assigned] at value
  cases above : last? request.assignments key with
  | some w =>
    rw [above, Option.some_or] at value
    exact .inl value
  | none =>
    rw [above, Option.none_or] at value
    cases said : page.get key with
    | some w =>
      rw [said, Option.some_or] at value
      exact .inr ⟨rfl, value⟩
    | none =>
      -- below the page nothing is wrong
      rw [said, Option.none_or] at value
      have right := (FactSheet.violations_eq_nil_iff _).1 (violations_baseline inRange) key v value
      cases right.symm.trans wrong

/-- A line is about a value that an assignment gives a fact, or else the document of the page. -/
def Blames (request : AnalysisRequest) (inputs : Inputs) (source : Source) (line : String) : Prop :=
  ∃ es key v violation, source.Tells inputs es ∧ key.violation? v = some violation ∧
    line = key.complaint "" violation ∧
    (last? request.assignments key = some v ∨
      last? request.assignments key = none ∧ Document.number? es key = some v)

/-- What a page is refused for was said by it or by an assignment. -/
theorem blames_of_refused {kb : KnowledgeBase} {inputs : Inputs} {source : Source}
    {lines : List String} (inRange : settings.complaints = [])
    (refused : source.analyze kb (request.layers settings) inputs = .error (.invalidFacts lines)) :
    lines ≠ [] ∧ ∀ line ∈ lines, request.Blames inputs source line := by
  obtain ⟨page, read, some, rfl⟩ := (Source.analyze_eq_invalidFacts_iff lines).1 refused
  obtain ⟨es, told, rfl⟩ := (Source.read_eq_ok_iff page).1 read
  refine ⟨some, fun line member => ?_⟩
  obtain ⟨key, v, violation, value, wrong, rfl⟩ := FactSheet.exists_of_mem_complaints member
  have origin := get_of_violation inRange value wrong
  rw [FactSheet.get_ofEntries told.nodup] at origin
  exact ⟨es, key, v, violation, told, wrong, rfl, origin⟩

/-- **Complaints are about the values that offend, wherever these come from.**  There is one line
for each value that offends, in the order of the facts, and none else.  So with one sheet laid over
another, the lines are those about the upper sheet and those about the values of the lower one that
it does not hide, and valid sheets in layers are valid.  Under settings that hold, a page is refused
only for values of its own and for those of assignments. -/
theorem complaints_traced :
    (∀ (scope : String) (s : FactSheet),
      List.Forall₂
        (fun key line => ∃ v violation, s.get key = some v ∧ key.violation? v = some violation ∧
          line = key.complaint scope violation)
        (Fact.all.filter fun key => s.Offends key) (s.complaints scope)) ∧
    (∀ (scope : String) (a b : FactSheet),
      ((a.overlay b).complaints scope).Perm
        (b.complaints scope ++ (a.violations.filter fun (key, _) => (b.get key).isNone).map
          fun (key, violation) => key.complaint scope violation)) ∧
    (∀ a b : FactSheet, a.violations = [] → b.violations = [] → (a.overlay b).violations = []) ∧
    ∀ (kb : KnowledgeBase) (surroundings : Surroundings) (path : Option String)
      (settings : Settings) (request : AnalysisRequest) (os : List PageOutcome),
      CommandLine.settings surroundings path = .ok settings →
      request.outcomes kb settings surroundings.inputs = .ok os →
      ∃ sources, Source.ofInputs surroundings.inputs.files request.inputs = .ok sources ∧
        List.Forall₂
          (fun source o => o.source = source.name ∧
            ∀ lines, o.result = .error (.invalidFacts lines) →
              lines ≠ [] ∧ ∀ line ∈ lines, request.Blames surroundings.inputs source line)
          sources os := by
  refine ⟨FactSheet.complaints_exact, fun scope a b => FactSheet.complaints_overlay a b scope,
    fun a b ha hb => FactSheet.violations_overlay_eq_nil ha hb, ?_⟩
  intro kb surroundings path settings request os held analyzed
  obtain ⟨-, inRange⟩ := (settings_eq_ok_iff settings).1 held
  obtain ⟨-, sources, found, rfl⟩ := (outcomes_eq_ok_iff os).1 analyzed
  refine ⟨sources, found, ?_⟩
  rw [List.forall₂_map_right_iff]
  exact List.forall₂_same.2 fun source _ => ⟨rfl, fun lines refused =>
    blames_of_refused inRange refused⟩

/-- A page that is refused for a value of its own and for an assignment, and a valid one that keeps
its input defaults valid. -/
theorem complaints_traced_page :
    let text := "\x7b\"cta_width\": -5, \"cta_height\": null\x7d"
    let surroundings : Surroundings := ⟨⟨.empty, text⟩, "home", none, false⟩
    let request : AnalysisRequest := ⟨["-"], ["contrast_ratio=0.5"], none, false, false, none⟩
    let lines := ["cta_width: must be non-negative (got -5)",
      "contrast_ratio: must be between 1 and 21 (got 0.5)"]
    CommandLine.settings surroundings none = .ok .unset ∧
      request.outcomes .standard .unset surroundings.inputs =
        .ok [⟨"(stdin)", .error (.invalidFacts lines)⟩] ∧
      (∀ line ∈ lines, request.Blames surroundings.inputs .standardInput line) ∧
      (FactSheet.defaults.overlay (.ofList [(.contrast, 21), (.width, -0)])).violations = [] := by
  intro text surroundings request lines
  have held : CommandLine.settings surroundings none = .ok .unset := by
    rw [settings_eq_ok_iff]
    exact ⟨by decide +kernel, rfl⟩
  have told : Source.standardInput.Tells surroundings.inputs
      [(.width, some (-5)), (.height, none)] := by
    have format : Document.Format.ofText text = .json := by decide +kernel
    have given : Document.entries (Json.Lexeme.scan text.toList) =
        .ok [(.width, some (-5)), (.height, none)] := by decide +kernel
    refine .standardInput ?_
    show Document.Tells (.ofText text) text _
    rw [format]
    exact .json given
  have read := (Source.read_eq_ok_iff _).2 ⟨_, told, rfl⟩
  have refused : Source.analyze .standard (request.layers .unset) surroundings.inputs
      .standardInput = .error (.invalidFacts lines) :=
    (Source.analyze_eq_invalidFacts_iff lines).2 ⟨_, read, by decide, by decide +kernel⟩
  have analyzed : request.outcomes .standard .unset surroundings.inputs =
      .ok [⟨"(stdin)", .error (.invalidFacts lines)⟩] := by
    refine (outcomes_eq_ok_iff _).2 ⟨by decide +kernel, [.standardInput], rfl, ?_⟩
    rw [List.map_singleton, Batch.outcome, refused]
    rfl
  obtain ⟨-, -, valid, run⟩ := complaints_traced
  obtain ⟨sources, found, each⟩ := run .standard surroundings none .unset request _ held analyzed
  obtain rfl : sources = [.standardInput] := (Except.ok.inj found).symm
  obtain ⟨⟨-, blamed⟩, -⟩ := List.forall₂_cons.1 each
  exact ⟨held, analyzed, (blamed lines rfl).2,
    valid _ _ FactSheet.violations_defaults (by decide +kernel)⟩

end CommandLine.AnalysisRequest

end CallToAction
