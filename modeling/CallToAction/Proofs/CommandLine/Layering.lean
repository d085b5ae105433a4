import CallToAction.Proofs.CommandLine.Outcomes
import CallToAction.Proofs.Settings.Defaults
import Mathlib.Data.List.Permutation

/-!
# The layers of facts

The facts of a page are layered.  From the top down there are the assignments of the command line,
the document of the page, the settings and the input defaults, which a request for sparse facts
leaves out.  Each fact has the value of the topmost layer that gives it a number.

* `Source.read_eq_ok_iff`: reading a source finds what its document says;
* `AnalysisRequest.get_around`: the value of a fact, layer by layer;
* `AnalysisRequest.outcomes_layered`: the facts that the pages of an analysis are analyzed with.
-/

namespace CallToAction

/-! ### Sources -/

/-- A source says this about facts. -/
inductive Source.Tells (inputs : Inputs) : Source → List Document.Entry → Prop
  | inline : Tells inputs .inline []
  | standardInput {es : List Document.Entry}
      (told : Document.Tells (.ofText inputs.standard) inputs.standard es) :
      Tells inputs .standardInput es
  | file {path text : String} {es : List Document.Entry}
      (found : inputs.files.read path = .ok text) (told : Document.Tells (.ofPath path) text es) :
      Tells inputs (.file path) es

namespace Source

variable {inputs : Inputs} {source : Source}

theorem Tells.nodup {es : List Document.Entry} (h : source.Tells inputs es) :
    (es.map Prod.fst).Nodup := by
  cases h with
  | inline => exact List.nodup_nil
  | standardInput told => exact told.nodup
  | file _ told => exact told.nodup

theorem read_standardInput_eq_ok_iff (page : FactSheet) :
    read inputs .standardInput = .ok page ↔
      FactSheet.ofDocument (.ofText inputs.standard) inputs.standard = .ok page := by
  rw [← FactSheet.parse_eq_ok_iff (w := inputs.wording), read]
  cases FactSheet.parse inputs.wording (.ofText inputs.standard) inputs.standard <;> simp

theorem read_file_eq_ok_iff (path : String) (page : FactSheet) :
    read inputs (.file path) = .ok page ↔
      ∃ text, inputs.files.read path = .ok text ∧
        FactSheet.ofDocument (.ofPath path) text = .ok page := by
  cases found : inputs.files.read path with
  | error e => simp [read, found]
  | ok text =>
    simp only [read, found, Except.ok.injEq, exists_eq_left',
      ← FactSheet.parse_eq_ok_iff (w := inputs.wording)]
    cases FactSheet.parse inputs.wording (.ofPath path) text <;> simp

/-- Reading a source finds what it says. -/
theorem read_eq_ok_iff (page : FactSheet) :
    source.read inputs = .ok page ↔
      ∃ es, source.Tells inputs es ∧ FactSheet.ofEntries es = page := by
  cases source with
  | inline =>
    constructor
    · rintro ⟨⟩
      exact ⟨[], .inline, rfl⟩
    · rintro ⟨es, ⟨⟩, rfl⟩
      rfl
  | standardInput =>
    rw [read_standardInput_eq_ok_iff, FactSheet.ofDocument_eq_ok_iff]
    constructor
    · rintro ⟨es, told, whole⟩
      exact ⟨es, .standardInput told, whole⟩
    · rintro ⟨es, told, whole⟩
      cases told with
      | standardInput told => exact ⟨es, told, whole⟩
  | file path =>
    simp only [read_file_eq_ok_iff, FactSheet.ofDocument_eq_ok_iff]
    constructor
    · rintro ⟨text, found, es, told, whole⟩
      exact ⟨es, .file found told, whole⟩
    · rintro ⟨es, told, whole⟩
      cases told with
      | file found told => exact ⟨_, found, es, told, whole⟩

end Source

/-! ### Layers -/

theorem Layers.get_around (layers : Layers) (page : FactSheet) (key : Fact) :
    (layers.around page).get key =
      (layers.overrides.get key).or ((page.get key).or (layers.baseline.get key)) := by
  simp only [Layers.around, FactSheet.get_overlay]

namespace CommandLine.AnalysisRequest

variable (request : AnalysisRequest) (settings : Settings)

/-- The value below the settings: none where sparse facts are asked for. -/
def builtIn (key : Fact) : Option Float := if request.sparse then none else some key.initial

theorem get_baseline (key : Fact) :
    (request.baseline settings).get key = (settings.below key).or (request.builtIn key) := by
  have above : (settings.defaults.getD .empty).get key = settings.below key := by
    unfold Settings.below
    cases settings.defaults <;> simp
  have below : (if request.sparse then FactSheet.empty else .defaults).get key =
      request.builtIn key := by
    unfold builtIn
    split_ifs <;> simp
  rw [baseline, FactSheet.get_overlay, above, below]

/-- The value of a fact is that of the topmost layer that has one. -/
theorem get_around (page : FactSheet) (key : Fact) :
    ((request.layers settings).around page).get key =
      (Assignment.last? request.assignments key).or
        ((page.get key).or ((settings.below key).or (request.builtIn key))) := by
  rw [Layers.get_around, ← FactSheet.get_assigned, ← get_baseline]
  rfl

/-- **Each fact has the value of the topmost layer that gives it a number.**  The layers are, from
the top down, the last assignment of the fact, the document of the page, the settings, and the input
default, which a request for sparse facts leaves out.  A page fails before that only where its
source says nothing.  In the document of a page and in that of the settings a null is the same as
nothing. -/
theorem outcomes_layered (kb : KnowledgeBase) (inputs : Inputs) {sources : List Source}
    (wellFormed : ∀ text ∈ request.assignments, Assignment.WellFormed text)
    (found : Source.ofInputs inputs.files request.inputs = .ok sources) :
    (∃ os, request.outcomes kb settings inputs = .ok os ∧
      List.Forall₂
        (fun source o => o.source = source.name ∧
          (∀ es, source.Tells inputs es → (es.map Prod.fst).Nodup ∧
            ∃ facts : FactSheet, o.result = kb.analyzeValid facts ∧
              ∀ key, facts.get key =
                (Assignment.last? request.assignments key).or
                  ((Document.number? es key).or
                    ((settings.below key).or
                      (if request.sparse then none else some key.initial)))) ∧
          ((¬ ∃ es, source.Tells inputs es) →
            ∃ e, source.read inputs = .error e ∧ o.result = .error e))
        sources os) ∧
      ∀ text, Settings.ofYaml? text = some settings →
        ∃ es, Settings.Tells text es ∧ (es.map Prod.fst).Nodup ∧
          ∀ key, settings.below key = Document.number? es key := by
  refine ⟨⟨_, (outcomes_eq_ok_iff _).2 ⟨wellFormed, sources, found, rfl⟩, ?_⟩,
    fun text h => Settings.exists_tells h⟩
  rw [List.forall₂_map_right_iff]
  refine List.forall₂_same.2 fun source _ => ⟨rfl, ?_, ?_⟩
  · intro es told
    have read := (Source.read_eq_ok_iff _).2 ⟨es, told, rfl⟩
    refine ⟨told.nodup, (request.layers settings).around (.ofEntries es), ?_, fun key => ?_⟩
    · simp only [Batch.outcome, Source.analyze, read]
    · rw [get_around, FactSheet.get_ofEntries told.nodup]
      rfl
  · intro silent
    cases read : source.read inputs with
    | error e =>
      refine ⟨e, rfl, ?_⟩
      simp only [Batch.outcome, Source.analyze, read]
    | ok page =>
      obtain ⟨es, told, -⟩ := (Source.read_eq_ok_iff _).1 read
      exact absurd ⟨es, told⟩ silent

/-- Of two assignments the last one counts, and a null in the document of the page does not hide the
settings. -/
theorem outcomes_layered_null :
    let request : AnalysisRequest :=
      ⟨["-"], ["cta_width=150", " cta_width = 160"], none, false, true, none⟩
    let settings : Settings := ⟨.unset, some (.ofList [(.width, 170), (.height, 44)])⟩
    let inputs : Inputs := ⟨.empty, "\x7b\"cta_height\": null\x7d"⟩
    (∀ text ∈ request.assignments, Assignment.WellFormed text) ∧
      Source.ofInputs inputs.files request.inputs = .ok [.standardInput] ∧
      request.outcomes .standard settings inputs =
        .ok [⟨"(stdin)",
          KnowledgeBase.standard.analyzeValid (.ofList [(.width, 160), (.height, 44)])⟩] := by
  intro request settings inputs
  have wellFormed : ∀ text ∈ request.assignments, Assignment.WellFormed text := by decide +kernel
  have found : Source.ofInputs inputs.files request.inputs = .ok [.standardInput] := by rfl
  have told : Source.standardInput.Tells inputs [(.height, none)] := by
    have format : Document.Format.ofText inputs.standard = .json := by decide +kernel
    have given : Document.entries (Json.Lexeme.scan inputs.standard.toList) =
        .ok [(.height, none)] := by cbv
    refine .standardInput ?_
    rw [format]
    exact .json given
  obtain ⟨⟨os, whole, each⟩, -⟩ :=
    outcomes_layered request settings .standard inputs wellFormed found
  obtain ⟨o, rest, ⟨name, layered, -⟩, none, rfl⟩ := List.forall₂_cons_left_iff.1 each
  obtain rfl := List.forall₂_nil_left_iff.1 none
  obtain ⟨-, facts, result, values⟩ := layered _ told
  have facts_eq : facts = .ofList [(.width, 160), (.height, 44)] := by
    refine FactSheet.ext_get fun key => (values key).trans ?_
    cases key <;> decide +kernel
  have o_eq : o = ⟨"(stdin)", KnowledgeBase.standard.analyzeValid facts⟩ := by
    rw [← result, ← show Source.standardInput.name = "(stdin)" from rfl, ← name]
  refine ⟨wellFormed, found, ?_⟩
  rw [whole, o_eq, facts_eq]

end CommandLine.AnalysisRequest

end CallToAction
