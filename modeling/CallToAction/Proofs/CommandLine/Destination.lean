import CallToAction.Proofs.CommandLine.ExitStatus
import CallToAction.Proofs.Settings.Starter

/-!
# Where the text of an analysis goes

The text of an analysis is printed or put into a file.  A text for a file is never colored; apart
from that the destination makes no difference.  So two runs that are alike but for their destination
lead to the same text, as long as the one that prints does so without colors.

* `presentation_printed`, `outcomes_printed`: what the destination and the colors do not touch;
* `Shows.destination`: where the text of a run with a destination is;
* `run_destination`: both runs, for one request;
* `respond_destination`: both runs, for command lines.
-/

namespace CallToAction

/-- Settings apart from when text is colored. -/
def Settings.uncolored (settings : Settings) : Settings :=
  { settings with output := { settings.output with color := none } }

namespace CommandLine

/-- The same request without a destination, so that its text is printed. -/
def AnalysisRequest.printed (request : AnalysisRequest) : AnalysisRequest :=
  { request with output := none }

namespace AnalysisRequest

/-- Settings that are alike but for the colors. -/
theorem parts_of_uncolored {held plain : Settings} (same : plain.uncolored = held.uncolored) :
    plain.output.format = held.output.format ∧
      plain.output.recommendations = held.output.recommendations ∧
      plain.defaults = held.defaults := by
  simp only [Settings.uncolored, Settings.mk.injEq, OutputSettings.mk.injEq] at same
  exact ⟨same.1.1, same.1.2.2, same.2⟩

variable {request : AnalysisRequest} {kb : KnowledgeBase} {s s' : Surroundings}
  {held plain : Settings} {target : String} {os : List PageOutcome} {output : String}
  {files : FileTree}

/-- The layers around pages depend on neither the destination nor the colors. -/
theorem layers_printed (same : plain.uncolored = held.uncolored) :
    request.printed.layers plain = request.layers held := by
  obtain ⟨-, -, defaults⟩ := parts_of_uncolored same
  unfold layers baseline
  rw [defaults]
  rfl

/-- Nor do the outcomes. -/
theorem outcomes_printed (same : plain.uncolored = held.uncolored) (inputs : Inputs) :
    request.printed.outcomes kb plain inputs = .ok os ↔
      request.outcomes kb held inputs = .ok os := by
  rw [outcomes_eq_ok_iff, outcomes_eq_ok_iff, layers_printed same]
  rfl

/-- A text for a file is presented as one that is printed without colors. -/
theorem presentation_printed (asked : request.output = some target)
    (same : plain.uncolored = held.uncolored) {terminal terminal' : Bool}
    (off : colored plain terminal' = false) :
    request.printed.presentation plain terminal' = request.presentation held terminal := by
  obtain ⟨format, recommendations, -⟩ := parts_of_uncolored same
  simp only [presentation, printed, formatOf, format, recommendations, asked, off, Bool.and_false,
    Option.isNone_some, Bool.false_and]

/-- A run with a destination that is shown puts its text there and prints nothing. -/
theorem Shows.destination (h : request.Shows kb s held os output files)
    (asked : request.output = some target) :
    ∃ text route, (request.presentation held s.terminal).text os = .ok text ∧
      s.inputs.files.Accepts target route ∧ output = "" ∧
      files = s.inputs.files.put route (.file (text ++ "\n")) := by
  obtain ⟨text, shown, emitted⟩ := bind_eq_ok_iff.1 h.presented
  obtain ⟨route, accepted⟩ := (exists_emit_iff text).1 ⟨_, emitted⟩ target asked
  rw [emit_of_accepts text asked accepted] at emitted
  cases emitted
  exact ⟨text, route, shown, accepted, rfl, rfl⟩

/-- A text that is shown in a file is shown in print. -/
theorem shows_printed (h : request.Shows kb s held os output files)
    (asked : request.output = some target) (inputs : s'.inputs = s.inputs)
    (same : plain.uncolored = held.uncolored) (off : colored plain s'.terminal = false)
    {text : String} (shown : (request.presentation held s.terminal).text os = .ok text) :
    request.printed.Shows kb s' plain os (text ++ "\n") s.inputs.files := by
  refine ⟨?_, bind_eq_ok_iff.2 ⟨text, ?_, ?_⟩⟩
  · rw [inputs]
    exact (outcomes_printed same _).2 h.outcomes
  · rw [presentation_printed asked same off]
    exact shown
  · rw [inputs]
    exact emit_of_none text rfl

/-- The run with a destination and the run that prints: what either leaves behind. -/
theorem run_destination (verbose : Bool) (h : request.Shows kb s held os output files)
    (asked : request.output = some target) (inputs : s'.inputs = s.inputs)
    (same : plain.uncolored = held.uncolored) (off : colored plain s'.terminal = false) :
    ∃ text route, (request.presentation held s.terminal).text os = .ok text ∧
      s.inputs.files.Accepts target route ∧
      request.run kb s held verbose = ⟨status os, "", if verbose then diagnoses os else "",
        s.inputs.files.put route (.file (text ++ "\n"))⟩ ∧
      request.printed.run kb s' plain verbose =
        ⟨status os, text ++ "\n", if verbose then diagnoses os else "", s.inputs.files⟩ := by
  obtain ⟨text, route, shown, accepted, rfl, rfl⟩ := h.destination asked
  exact ⟨text, route, shown, accepted, run_of_shows verbose h,
    run_of_shows verbose (shows_printed h asked inputs same off shown)⟩

end AnalysisRequest

open CallToAction.Path (EndsInName)

variable {s s' : Surroundings} {arguments arguments' : List String} {verbose : Bool}
  {path path' : Option String} {request : AnalysisRequest} {target : String}
  {held plain : Settings} {os : List PageOutcome} {output : String} {files : FileTree}

/-- **A text that is put into a file is the text that is printed without colors**, if two command
lines ask for the same analysis and only one of them names a file.  Their settings may differ in the
colors, and only the settings of the one that prints have to leave them off.  Nothing is printed by
the run that writes, no other file changes, and the exit status is the same.  Both runs analyze the
pages as they were before, also a page in the file that is written. -/
theorem respond_destination
    (understood : Command.ofArguments arguments = .ok ⟨verbose, path, .analyze request⟩)
    (asked : request.output = some target)
    (understood' : Command.ofArguments arguments' =
      .ok ⟨verbose, path', .analyze { request with output := none }⟩)
    (inputs : s'.inputs = s.inputs)
    (loaded : settings s path = .ok held) (loaded' : settings s' path' = .ok plain)
    (same : plain.uncolored = held.uncolored) (off : colored plain s'.terminal = false)
    (written : request.Shows .standard s held os output files) :
    let before := s.inputs.files
    let writing := respond s arguments
    let printing := respond s' arguments'
    (∃ route, before.Accepts target route ∧
        writing.files.get? route = some (.file printing.output) ∧
        (∀ other, other ≠ route → writing.files.get? other = before.get? other) ∧
        (EndsInName target → writing.files.read target = .ok printing.output)) ∧
      writing.output = "" ∧ writing.status.code = printing.status.code ∧
      writing.messages = printing.messages ∧ printing.files = before ∧
      ∃ sources text, Source.ofInputs before request.inputs = .ok sources ∧
        (request.presentation held s.terminal).text
          (sources.map (Batch.outcome .standard (request.layers held) s.inputs)) = .ok text ∧
        printing.output = text ++ "\n" := by
  intro before writing printing
  obtain ⟨text, route, shown, accepted, ran, ran'⟩ :=
    AnalysisRequest.run_destination verbose written asked inputs same off
  have writing_eq : writing = _ := (respond_of_settings understood loaded).trans ran
  have printing_eq : printing = _ := (respond_of_settings understood' loaded').trans ran'
  obtain ⟨-, sources, found, rfl⟩ := (AnalysisRequest.outcomes_eq_ok_iff _).1 written.outcomes
  obtain ⟨here, others⟩ := accepted.get?_put (text ++ "\n")
  rw [writing_eq, printing_eq]
  refine ⟨⟨route, accepted, here, others, fun ends => ?_⟩, rfl, rfl, rfl, rfl, sources, text, found,
    shown, rfl⟩
  exact Settings.read_put ends accepted

/-- The file of a page is replaced by what was found on the page, without the colors that the
settings ask for. -/
theorem respond_destination_page :
    let page := "\x7b\"cta_width\": 150\x7d"
    let files : FileTree :=
      ⟨[(⟨false, ["a.json"]⟩, .file page),
        (⟨false, ["c.yaml"]⟩, .file "output:\n  color: always\n")]⟩
    let s : Surroundings := ⟨⟨files, ""⟩, "home", none, false⟩
    let colorful : Settings := ⟨⟨none, some .always, none⟩, none⟩
    settings s (some "c.yaml") = .ok colorful ∧ colored colorful s.terminal = true ∧
      files.read "a.json" = .ok page ∧
      (respond s ["a.json", "-c", "c.yaml", "-o", "a.json"]).files.read "a.json" =
        .ok (respond s ["a.json"]).output ∧
      (respond s ["a.json", "-c", "c.yaml", "-o", "a.json"]).output = "" ∧
      (respond s ["a.json", "-c", "c.yaml", "-o", "a.json"]).status.code =
        (respond s ["a.json"]).status.code := by
  intro page files s colorful
  let request : AnalysisRequest := ⟨["a.json"], [], none, false, false, some "a.json"⟩
  have understood : Command.ofArguments ["a.json", "-c", "c.yaml", "-o", "a.json"] =
      .ok ⟨false, some "c.yaml", .analyze request⟩ := by decide +kernel
  have understood' : Command.ofArguments ["a.json"] =
      .ok ⟨false, none, .analyze { request with output := none }⟩ := by decide +kernel
  have loaded : settings s (some "c.yaml") = .ok colorful := by decide +kernel
  have loaded' : settings s none = .ok .unset := by decide +kernel
  have found : Source.ofInputs s.inputs.files request.inputs = .ok [.file "a.json"] := by
    decide +kernel
  have read : (Source.file "a.json").read s.inputs = .ok (.ofList [(.width, 150)]) := by
    decide +kernel
  have valid : ((request.layers colorful).around (.ofList [(.width, 150)])).complaints "" = [] := by
    decide +kernel
  have shown : ¬ ∃ source cause, [Source.file "a.json"] = [source] ∧
      source.analyze .standard (request.layers colorful) s.inputs = .error cause := by
    rintro ⟨source, cause, single, failed⟩
    cases single
    simp [Source.analyze, read, KnowledgeBase.analyzeValid, valid] at failed
  have place : request.HasPlace s.inputs.files := by
    rintro path ⟨⟩
    refine ⟨⟨false, ["a.json"]⟩, "a.json", ⟨false, []⟩, ?_, ?_, rfl, ?_⟩ <;> decide +kernel
  have written : ∃ os output after, request.Shows .standard s colorful os output after :=
    AnalysisRequest.exists_shows_iff.2 ⟨by simp [request], ⟨_, found, shown⟩, place⟩
  obtain ⟨os, output, after, written⟩ := written
  obtain ⟨⟨route, -, -, -, reread⟩, silent, status, -⟩ :=
    respond_destination understood rfl understood' rfl loaded loaded' rfl rfl written
  exact ⟨loaded, rfl, by decide +kernel, reread (by decide +kernel), silent, status⟩

end CommandLine

end CallToAction
