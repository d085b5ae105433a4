import CallToAction.Proofs.CommandLine.Outcomes
import CallToAction.Proofs.FileTree.Writing
import CallToAction.Proofs.KnowledgeBase.Defects

/-!
# The exit status of an analysis

An analysis needs settings that hold, then assignments and inputs that can be read, then something
to show, and at last a place for the text.  Whatever is missing ends it there with nothing shown,
and its exit status tells settings from all else.

* `settings_eq_ok_iff`, `exists_settings_eq_error_iff`: when settings hold;
* `AnalysisRequest.exists_shows_iff`: when an analysis is shown;
* `AnalysisRequest.run_of_shows`, `AnalysisRequest.run_of_not_shows`: what it leaves behind;
* `respond_analyze`: the exit status of an analysis, and what was shown.
-/

namespace CallToAction

namespace CommandLine

/-- Nothing is printed as a result, and the files are left alone. -/
def Response.Quiet (response : Response) (files : FileTree) : Prop :=
  response.output = "" ∧ response.files = files

theorem Failure.quiet_response (f : Failure) (messages : String) (files : FileTree) :
    (f.response messages files).Quiet files :=
  ⟨rfl, rfl⟩

/-! ### Settings -/

section Settings

variable {kb : KnowledgeBase} {s : Surroundings} {path : Option String}

theorem settings_eq_ok_iff (held : Settings) :
    settings s path = .ok held ↔
      Settings.load s.inputs.files s.home path = .ok held ∧ held.complaints = [] := by
  unfold settings
  cases loaded : Settings.load s.inputs.files s.home path with
  | error cause => simp
  | ok found =>
    cases complaints : found.complaints with
    | nil =>
      simp only [complaints, Except.ok.injEq]
      constructor
      · rintro rfl
        exact ⟨rfl, complaints⟩
      · exact fun h => h.1
    | cons first rest =>
      simp only [complaints, reduceCtorEq, Except.ok.injEq, false_iff, not_and]
      rintro rfl
      simp [complaints]

/-- Settings fail if they are not loaded or out of range. -/
theorem exists_settings_eq_error_iff :
    (∃ f, settings s path = .error f) ↔
      (∃ cause, Settings.load s.inputs.files s.home path = .error cause) ∨
        ∃ found, Settings.load s.inputs.files s.home path = .ok found ∧ found.complaints ≠ [] := by
  unfold settings
  cases loaded : Settings.load s.inputs.files s.home path with
  | error cause => simp
  | ok found => cases complaints : found.complaints <;> simp [complaints]

theorem status_of_settings {f : Failure} (h : settings s path = .error f) :
    f.status = .invalidSettings := by
  unfold settings at h
  split at h
  · cases h
    rfl
  · split at h
    · cases h
    · cases h
      rfl

theorem underSettings_of_ok (accepted : kb.defects = []) {held : Settings}
    (h : settings s path = .ok held) (work : Settings → Response) :
    underSettings kb s path work = work held := by
  simp only [underSettings, h, accepted]

theorem underSettings_of_error {f : Failure} (h : settings s path = .error f)
    (work : Settings → Response) :
    underSettings kb s path work = f.response "" s.inputs.files := by
  simp only [underSettings, h]

end Settings

/-! ### Presentation -/

namespace Presentation

variable (p : Presentation)

/-- There is no text for a single page that failed, and for nothing else. -/
theorem exists_text_iff (os : List PageOutcome) :
    (∃ text, p.text os = .ok text) ↔ ¬ ∃ source cause, os = [⟨source, .error cause⟩] := by
  unfold text
  split
  · simp
  · simp
  · rename_i alone
    simpa using alone

theorem text_of_two_le {os : List PageOutcome} (several : 2 ≤ os.length) :
    p.text os = .ok (p.batch os) := by
  match os with
  | ⟨_, .ok _⟩ :: _ :: _ => rfl
  | ⟨_, .error _⟩ :: _ :: _ => rfl

theorem status_of_text {os : List PageOutcome} {f : Failure} (h : p.text os = .error f) :
    f.status = .invalidInput := by
  unfold text at h
  split at h
  · cases h
  · cases h
    rfl
  · cases h

end Presentation

namespace AnalysisRequest

open Assignment (WellFormed)

variable {request : AnalysisRequest} {kb : KnowledgeBase} {s : Surroundings} {settings : Settings}
  {files : FileTree} (verbose : Bool)

/-- There is a place for the text: it is printed, or its path takes a file. -/
def HasPlace (request : AnalysisRequest) (files : FileTree) : Prop :=
  ∀ path ∈ request.output, ∃ route, files.Accepts path route

theorem emit_of_none (text : String) (printed : request.output = none) :
    request.emit files text = .ok (text ++ "\n", files) := by
  simp only [emit, printed]

theorem emit_of_accepts (text : String) {path : String} {route : Route}
    (asked : request.output = some path) (accepted : files.Accepts path route) :
    request.emit files text = .ok ("", files.put route (.file (text ++ "\n"))) := by
  have put := (FileTree.replace_eq_ok_iff (text ++ "\n") _).2 ⟨route, accepted, rfl⟩
  simp only [emit, asked, put]

/-- Whether a text is emitted does not depend on the text. -/
theorem exists_emit_iff (text : String) :
    (∃ r, request.emit files text = .ok r) ↔ request.HasPlace files := by
  constructor
  · rintro ⟨r, h⟩ path asked
    unfold emit at h
    rw [Option.mem_def.1 asked] at h
    cases put : files.replace path (text ++ "\n") with
    | error cause => simp [put] at h
    | ok after =>
      obtain ⟨route, accepted, -⟩ := (FileTree.replace_eq_ok_iff _ _).1 put
      exact ⟨route, accepted⟩
  · intro place
    cases asked : request.output with
    | none => exact ⟨_, emit_of_none text asked⟩
    | some path =>
      obtain ⟨route, accepted⟩ := place path asked
      exact ⟨_, emit_of_accepts text asked accepted⟩

theorem status_of_emit {text : String} {f : Failure} (h : request.emit files text = .error f) :
    f.status = .invalidInput := by
  unfold emit at h
  split at h
  · cases h
  · split at h
    · cases h
    · cases h
      rfl

theorem exists_present_iff (os : List PageOutcome) :
    (∃ r, request.present s settings os = .ok r) ↔
      (¬ ∃ source cause, os = [⟨source, .error cause⟩]) ∧ request.HasPlace s.inputs.files := by
  rw [← Presentation.exists_text_iff (request.presentation settings s.terminal)]
  simp only [present, bind_eq_ok_iff]
  constructor
  · rintro ⟨r, text, shown, emitted⟩
    exact ⟨⟨text, shown⟩, (exists_emit_iff text).1 ⟨r, emitted⟩⟩
  · rintro ⟨⟨text, shown⟩, place⟩
    obtain ⟨r, emitted⟩ := (exists_emit_iff text).2 place
    exact ⟨r, text, shown, emitted⟩

theorem status_of_present {os : List PageOutcome} {f : Failure}
    (h : request.present s settings os = .error f) : f.status = .invalidInput := by
  rcases bind_eq_error_iff.1 h with unshown | ⟨text, -, unplaced⟩
  · exact Presentation.status_of_text _ unshown
  · exact status_of_emit unplaced

/-! ### Runs -/

/-- An analysis has outcomes, and they are shown: this is printed, and these are the files. -/
structure Shows (request : AnalysisRequest) (kb : KnowledgeBase) (s : Surroundings)
    (settings : Settings) (os : List PageOutcome) (output : String) (files : FileTree) : Prop where
  outcomes : request.outcomes kb settings s.inputs = .ok os
  presented : request.present s settings os = .ok (output, files)

/-- An analysis is shown if it can be read, is not a single page that failed, and has a place. -/
theorem exists_shows_iff :
    (∃ os output files, request.Shows kb s settings os output files) ↔
      (∀ text ∈ request.assignments, WellFormed text) ∧
        (∃ sources, Source.ofInputs s.inputs.files request.inputs = .ok sources ∧
          ¬ ∃ source cause, sources = [source] ∧
            source.analyze kb (request.layers settings) s.inputs = .error cause) ∧
        request.HasPlace s.inputs.files := by
  have alone (sources : List Source) :
      (∃ name cause, sources.map (Batch.outcome kb (request.layers settings) s.inputs) =
          [⟨name, .error cause⟩]) ↔
        ∃ source cause, sources = [source] ∧
          source.analyze kb (request.layers settings) s.inputs = .error cause := by
    constructor
    · rintro ⟨name, cause, single⟩
      obtain ⟨source, rfl, failed⟩ := List.map_eq_singleton_iff.1 single
      exact ⟨source, cause, rfl, congrArg PageOutcome.result failed⟩
    · rintro ⟨source, cause, rfl, failed⟩
      exact ⟨source.name, cause, by rw [List.map_singleton, Batch.outcome, failed]⟩
  constructor
  · rintro ⟨os, output, files, h⟩
    obtain ⟨wellFormed, sources, found, rfl⟩ := (outcomes_eq_ok_iff _).1 h.outcomes
    obtain ⟨shown, place⟩ := (exists_present_iff _).1 ⟨_, h.presented⟩
    exact ⟨wellFormed, ⟨sources, found, mt (alone sources).2 shown⟩, place⟩
  · rintro ⟨wellFormed, ⟨sources, found, shown⟩, place⟩
    obtain ⟨⟨output, files⟩, presented⟩ :=
      (exists_present_iff _).2 ⟨mt (alone sources).1 shown, place⟩
    exact ⟨_, output, files, (outcomes_eq_ok_iff _).2 ⟨wellFormed, sources, found, rfl⟩, presented⟩

theorem run_of_shows {os : List PageOutcome} {output : String}
    (h : request.Shows kb s settings os output files) :
    request.run kb s settings verbose =
      ⟨status os, output, if verbose then diagnoses os else "", files⟩ := by
  simp only [run, h.outcomes, h.presented]

/-- An analysis that is not shown failed on what was put in. -/
theorem run_of_not_shows
    (h : ¬ ∃ os output files, request.Shows kb s settings os output files) :
    ∃ f : Failure, f.status = .invalidInput ∧
      ∃ messages, request.run kb s settings verbose = f.response messages s.inputs.files := by
  cases outcomes : request.outcomes kb settings s.inputs with
  | error f =>
    refine ⟨f, status_of_outcomes outcomes, "", ?_⟩
    simp only [run, outcomes]
  | ok os =>
    cases presented : request.present s settings os with
    | error f =>
      refine ⟨f, status_of_present presented, if verbose then diagnoses os else "", ?_⟩
      simp only [run, outcomes, presented]
    | ok r => exact absurd ⟨os, r.1, r.2, outcomes, presented⟩ h

theorem status_eq_success_iff (os : List PageOutcome) :
    status os = .success ↔ ∃ o ∈ os, ∃ report, o.result = .ok report := by
  have failed : (os.all fun o => !o.result.toBool) = true ↔
      ¬ ∃ o ∈ os, ∃ report, o.result = .ok report := by
    simp only [List.all_eq_true, not_exists, not_and]
    refine forall₂_congr fun o _ => ?_
    cases o.result <;> simp [Except.toBool]
  unfold status
  split
  · rename_i none
    simp only [reduceCtorEq, false_iff]
    exact failed.1 none
  · rename_i some
    exact iff_of_true rfl (not_not.1 (mt failed.2 some))

/-- The status of an analysis is success if one of its sources can be analyzed. -/
theorem status_map_eq_success_iff (layers : Layers) (inputs : Inputs) (sources : List Source) :
    status (sources.map (Batch.outcome kb layers inputs)) = .success ↔
      ∃ source ∈ sources, ∃ report, source.analyze kb layers inputs = .ok report := by
  simp only [status_eq_success_iff, List.mem_map, exists_exists_and_eq_and, Batch.outcome]

theorem run_status_eq_success_iff :
    (request.run kb s settings verbose).status = .success ↔
      (∀ text ∈ request.assignments, WellFormed text) ∧
        (∃ sources, Source.ofInputs s.inputs.files request.inputs = .ok sources ∧
          ∃ source ∈ sources, ∃ report,
            source.analyze kb (request.layers settings) s.inputs = .ok report) ∧
        request.HasPlace s.inputs.files := by
  constructor
  · intro success
    by_cases h : ∃ os output files, request.Shows kb s settings os output files
    · obtain ⟨wellFormed, -, place⟩ := exists_shows_iff.1 h
      obtain ⟨os, output, files, shows⟩ := h
      obtain ⟨-, sources, found, rfl⟩ := (outcomes_eq_ok_iff _).1 shows.outcomes
      rw [run_of_shows verbose shows] at success
      exact ⟨wellFormed, ⟨sources, found, (status_map_eq_success_iff _ _ _).1 success⟩, place⟩
    · obtain ⟨f, -, messages, failed⟩ := run_of_not_shows verbose h
      rw [failed] at success
      exact absurd success f.status_ne_success
  · rintro ⟨wellFormed, ⟨sources, found, source, hs, report, succeeded⟩, place⟩
    -- the page that succeeds is not a single one that failed
    have shown : ¬ ∃ only cause, sources = [only] ∧
        only.analyze kb (request.layers settings) s.inputs = .error cause := by
      rintro ⟨only, cause, rfl, failed⟩
      obtain rfl := List.mem_singleton.1 hs
      rw [succeeded] at failed
      cases failed
    obtain ⟨os, output, files, shows⟩ :=
      exists_shows_iff.2 ⟨wellFormed, ⟨sources, found, shown⟩, place⟩
    obtain ⟨-, others, again, rfl⟩ := (outcomes_eq_ok_iff _).1 shows.outcomes
    obtain rfl : sources = others := Except.ok.inj (found.symm.trans again)
    rw [run_of_shows verbose shows]
    exact (status_map_eq_success_iff _ _ _).2 ⟨source, hs, report, succeeded⟩

/-- An analysis that has its settings never fails on them. -/
theorem run_status_cases :
    (request.run kb s settings verbose).status = .success ∨
      (request.run kb s settings verbose).status = .invalidInput := by
  by_cases h : ∃ os output files, request.Shows kb s settings os output files
  · obtain ⟨os, output, files, shows⟩ := h
    rw [run_of_shows verbose shows]
    unfold status
    split
    · exact .inr rfl
    · exact .inl rfl
  · obtain ⟨f, invalid, messages, failed⟩ := run_of_not_shows verbose h
    rw [failed]
    exact .inr invalid

/-- Several pages are shown whatever became of them. -/
theorem shows_of_two_le {sources : List Source} {output : String}
    (wellFormed : ∀ text ∈ request.assignments, WellFormed text)
    (found : Source.ofInputs s.inputs.files request.inputs = .ok sources)
    (several : 2 ≤ sources.length)
    (emitted : request.emit s.inputs.files ((request.presentation settings s.terminal).batch
      (sources.map (Batch.outcome kb (request.layers settings) s.inputs))) = .ok (output, files)) :
    request.Shows kb s settings
      (sources.map (Batch.outcome kb (request.layers settings) s.inputs)) output files := by
  refine ⟨(outcomes_eq_ok_iff _).2 ⟨wellFormed, sources, found, rfl⟩, ?_⟩
  refine bind_eq_ok_iff.2 ⟨_, Presentation.text_of_two_le _ ?_, emitted⟩
  rwa [List.length_map]

end AnalysisRequest

/-! ### Command lines -/

theorem ExitStatus.code_eq_four_iff (status : ExitStatus) :
    status.code = 4 ↔ status = .invalidSettings := by
  cases status <;> decide

theorem ExitStatus.code_eq_zero_iff (status : ExitStatus) :
    status.code = 0 ↔ status = .success := by
  cases status <;> decide

section Command

open AnalysisRequest

variable {s : Surroundings} {arguments : List String} {verbose : Bool} {path : Option String}
  {request : AnalysisRequest}

theorem respond_of_settings
    (understood : Command.ofArguments arguments = .ok ⟨verbose, path, .analyze request⟩)
    {held : Settings} (h : settings s path = .ok held) :
    respond s arguments = request.run .standard s held verbose := by
  simp only [respond, understood, Command.run, Command.runWith,
    underSettings_of_ok KnowledgeBase.standard_defects h]

theorem respond_of_settings_error
    (understood : Command.ofArguments arguments = .ok ⟨verbose, path, .analyze request⟩)
    {f : Failure} (h : settings s path = .error f) :
    respond s arguments = f.response "" s.inputs.files := by
  simp only [respond, understood, Command.run, Command.runWith, underSettings_of_error h]

theorem code_respond_eq_four_iff
    (understood : Command.ofArguments arguments = .ok ⟨verbose, path, .analyze request⟩) :
    (respond s arguments).status.code = 4 ↔ ∃ f, settings s path = .error f := by
  rw [ExitStatus.code_eq_four_iff]
  cases h : settings s path with
  | error f =>
    rw [respond_of_settings_error understood h]
    exact iff_of_true (status_of_settings h) ⟨f, rfl⟩
  | ok held =>
    rw [respond_of_settings understood h]
    refine iff_of_false (fun invalid => ?_) (by simp)
    rcases run_status_cases verbose with success | input
    · rw [success] at invalid
      cases invalid
    · rw [input] at invalid
      cases invalid

/-- **The exit status of an analysis tells what it lacked.**  The status is four if the settings
cannot be loaded or are out of range, and that comes before all else.  Otherwise it is zero if every
assignment is well formed, the inputs are sources, one of their pages at least is analyzed, and the
text has a place; if not, it is two.  Without settings, assignments or sources, or where the only
page fails, nothing is printed and no file is touched.  Two pages or more are shown even if all of
them fail: the text is printed, or it stands at the path that was asked for. -/
theorem respond_analyze
    (understood : Command.ofArguments arguments = .ok ⟨verbose, path, .analyze request⟩) :
    let files := s.inputs.files
    let response := respond s arguments
    (response.status.code = 4 ↔
      (∃ cause, Settings.load files s.home path = .error cause) ∨
        ∃ held, Settings.load files s.home path = .ok held ∧ held.complaints ≠ []) ∧
    (response.status.code = 4 → response.Quiet files) ∧
    ∀ held, Settings.load files s.home path = .ok held → held.complaints = [] →
      (response.status.code = 0 ↔
        (∀ text ∈ request.assignments, Assignment.WellFormed text) ∧
          (∃ sources, Source.ofInputs files request.inputs = .ok sources ∧
            ∃ source ∈ sources, ∃ report,
              source.analyze .standard (request.layers held) s.inputs = .ok report) ∧
          request.HasPlace files) ∧
      (response.status.code ≠ 0 → response.status.code = 2) ∧
      ((∃ text ∈ request.assignments, ¬ Assignment.WellFormed text) ∨
          (∃ cause, Source.ofInputs files request.inputs = .error cause) ∨
          (∃ source cause, Source.ofInputs files request.inputs = .ok [source] ∧
            source.analyze .standard (request.layers held) s.inputs = .error cause) →
        response.Quiet files) ∧
      ∀ sources, (∀ text ∈ request.assignments, Assignment.WellFormed text) →
        Source.ofInputs files request.inputs = .ok sources → 2 ≤ sources.length →
        let text := (request.presentation held s.terminal).batch
          (sources.map (Batch.outcome .standard (request.layers held) s.inputs)) ++ "\n"
        (request.output = none → response.output = text ∧ response.files = files) ∧
          ∀ target route, request.output = some target → files.Accepts target route →
            response.output = "" ∧ response.files.get? route = some (.file text) ∧
              ∀ other, other ≠ route → response.files.get? other = files.get? other := by
  intro files response
  refine ⟨?_, ?_, ?_⟩
  · rw [← exists_settings_eq_error_iff]
    exact code_respond_eq_four_iff understood
  · intro four
    obtain ⟨f, h⟩ := (code_respond_eq_four_iff understood).1 four
    simp only [response, respond_of_settings_error understood h]
    exact f.quiet_response _ _
  · intro held loaded inRange
    have ran : response = request.run .standard s held verbose :=
      respond_of_settings understood ((settings_eq_ok_iff held).2 ⟨loaded, inRange⟩)
    rw [ran]
    refine ⟨?_, ?_, ?_, ?_⟩
    · rw [ExitStatus.code_eq_zero_iff]
      exact run_status_eq_success_iff verbose
    · intro failed
      rcases run_status_cases verbose with success | input
      · rw [success] at failed
        exact absurd rfl failed
      · rw [input]
        rfl
    · intro lacking
      have unshown : ¬ ∃ os output after, request.Shows .standard s held os output after := by
        rw [exists_shows_iff]
        rintro ⟨wellFormed, ⟨sources, found, shown⟩, -⟩
        rcases lacking with
          ⟨text, given, malformed⟩ | ⟨cause, failed⟩ | ⟨source, cause, alone, failed⟩
        · exact malformed (wellFormed text given)
        · exact absurd (found.symm.trans failed) (by simp)
        · exact shown ⟨source, cause, Except.ok.inj (found.symm.trans alone), failed⟩
      obtain ⟨f, -, messages, quiet⟩ := run_of_not_shows verbose unshown
      rw [quiet]
      exact f.quiet_response _ _
    · intro sources wellFormed found several text
      refine ⟨fun printed => ?_, fun target route asked accepted => ?_⟩
      · rw [run_of_shows verbose <| shows_of_two_le wellFormed found several <|
          emit_of_none _ printed]
        exact ⟨rfl, rfl⟩
      · rw [run_of_shows verbose <| shows_of_two_le wellFormed found several <|
          emit_of_accepts _ asked accepted]
        exact ⟨rfl, accepted.get?_put _⟩

/-- Two pages that cannot be read are listed all the same, in a file next to them. -/
theorem respond_analyze_unreadable :
    let s : Surroundings := ⟨⟨.empty, ""⟩, "home", none, false⟩
    let arguments := ["a.yaml", "b.yaml", "-o", "out.txt"]
    let request : AnalysisRequest := ⟨["a.yaml", "b.yaml"], [], none, false, false, some "out.txt"⟩
    Command.ofArguments arguments = .ok ⟨false, none, .analyze request⟩ ∧
      (respond s arguments).status.code = 2 ∧ (respond s arguments).output = "" ∧
      (respond s arguments).files.get? ⟨false, ["out.txt"]⟩ =
        some (.file (" 1. a.yaml  error: Failed to read fact file at a.yaml: " ++
          "No such file or directory (os error 2)\n" ++
          " 2. b.yaml  error: Failed to read fact file at b.yaml: " ++
          "No such file or directory (os error 2)\n")) := by
  intro s arguments request
  have understood : Command.ofArguments arguments = .ok ⟨false, none, .analyze request⟩ := by
    decide +kernel
  have loaded : Settings.load s.inputs.files s.home none = .ok .unset := by decide +kernel
  have found : Source.ofInputs s.inputs.files request.inputs =
      .ok [.file "a.yaml", .file "b.yaml"] := by decide +kernel
  have accepted : s.inputs.files.Accepts "out.txt" ⟨false, ["out.txt"]⟩ := by
    refine ⟨"out.txt", ⟨false, []⟩, ?_, ?_, rfl, ?_⟩ <;> decide +kernel
  have unreadable (path : String) (absent : s.inputs.files.read path = .error .notFound) :
      Source.analyze .standard (request.layers .unset) s.inputs (.file path) =
        .error (.failed ⟨s!"Failed to read fact file at {path}",
          ["No such file or directory (os error 2)"]⟩) := by
    simp only [Source.analyze, Source.read, absent]
    rfl
  have first := unreadable "a.yaml" (by decide +kernel)
  have second := unreadable "b.yaml" (by decide +kernel)
  obtain ⟨-, -, settled⟩ := respond_analyze understood
  obtain ⟨zero, two, -, listed⟩ := settled .unset loaded rfl
  have nonzero : (respond s arguments).status.code ≠ 0 := by
    intro success
    obtain ⟨-, ⟨sources, again, source, hs, report, analyzed⟩, -⟩ := zero.1 success
    obtain rfl := Except.ok.inj (found.symm.trans again)
    simp only [List.mem_cons, List.not_mem_nil, or_false] at hs
    rcases hs with rfl | rfl
    · rw [first] at analyzed
      cases analyzed
    · rw [second] at analyzed
      cases analyzed
  obtain ⟨-, written⟩ := listed _ (by simp [request]) found (Nat.le_refl 2)
  obtain ⟨silent, stands, -⟩ := written _ _ rfl accepted
  refine ⟨understood, two nonzero, silent, ?_⟩
  rw [stands]
  simp only [List.map_cons, List.map_nil, Batch.outcome, first, second]
  decide +kernel

end Command

end CommandLine

end CallToAction
