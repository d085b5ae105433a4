import CallToAction.Batch.Listing
import CallToAction.Proofs.Json.Reader

/-!
# Listings of a batch, decoded

A batch that is listed as a document is decoded to an array with an object for each outcome, in the
order of the outcomes.  An object has the name of the source, and either the report or the error.
What is decoded of a report is described here member by member, apart from how it is written.

* `Report.decoded`, `Digest.decoded`: what is decoded of a report and of its short form;
* `PageOutcome.Told`: what is decoded of an outcome;
* `Json.Condenses`: how the short form of a report agrees with the full one;
* `Batch.indented_decodes`: the document of a batch, full and short.
-/

namespace CallToAction

/-! ### Reports -/

/-- A certainty as it is decoded; there is no number for one that is not finite. -/
def Json.certainty (x : Float) : Json := if x.isFinite then .float x else .null

/-- A finding as it is decoded. -/
def Finding.decoded (f : Finding) : Json :=
  .object
    [("rule_id", .string f.ruleId), ("priority", .int f.priority),
      ("certainty", .certainty f.certainty), ("conclusion", .string f.conclusion),
      ("explanation", .string f.explanation), ("category", .string f.category.text)]

/-- Labels as they are decoded. -/
def Labels.decoded (ls : Labels) : Json :=
  .object
    [("content_length", .string ls.contentLength.text),
      ("cta_text_clarity", .string ls.textClarity.text),
      ("cta_color_uniqueness", .string ls.colorUniqueness.text),
      ("visual_hierarchy", .string ls.visualHierarchy.text),
      ("mobile_friendly", .string (if ls.mobileFriendly then "yes" else "no")),
      ("loading_feedback", .string (if ls.loadingFeedback then "yes" else "no"))]

/-- A summary as it is decoded. -/
def Summary.decoded (s : Summary) : Json :=
  .object
    [("visibility_status", .string s.visibility.text),
      ("clickability_status", .string s.clickability.text),
      ("certainty_level", .string s.certainty.text), ("overall_status", .string s.overall),
      ("status", .string s.grade.text), ("average_score", .string s.average)]

/-- A report as it is decoded. -/
def Report.decoded (r : Report) : Json :=
  .object
    [("visibility_score", .int r.visibility), ("clickability_score", .int r.clickability),
      ("overall_certainty", .certainty r.certainty),
      ("activated_rules", .array (r.findings.map Finding.decoded)),
      ("recommendations", .array (r.recommendations.map Json.string)),
      ("qualitative_inputs", r.labels.decoded), ("detailed_explanation", .string r.reasoning),
      ("summary", r.summary.decoded)]

/-- The short form of a report as it is decoded. -/
def Digest.decoded (d : Digest) : Json :=
  .object
    [("visibility_score", .int d.visibility), ("clickability_score", .int d.clickability),
      ("overall_certainty", .certainty d.certainty),
      ("recommendations", .array (d.recommendations.map Json.string)),
      ("summary", d.summary.decoded)]

theorem Finding.finitePart_toJson (f : Finding) : f.toJson.finitePart = f.decoded := by
  simp [toJson, decoded, Json.finitePart_float, Json.certainty]

theorem Labels.finitePart_toJson (ls : Labels) : ls.toJson.finitePart = ls.decoded := by
  simp [toJson, toList, decoded, Label.aspect, Label.value]

theorem Summary.finitePart_toJson (s : Summary) : s.toJson.finitePart = s.decoded := by
  simp [toJson, decoded]

theorem Report.finitePart_toJson (r : Report) : r.toJson.finitePart = r.decoded := by
  simp [toJson, decoded, Json.finitePart_float, Json.certainty, Function.comp_def,
    Finding.finitePart_toJson, Labels.finitePart_toJson, Summary.finitePart_toJson]

theorem Digest.finitePart_toJson (d : Digest) : d.toJson.finitePart = d.decoded := by
  simp [toJson, decoded, Json.finitePart_float, Json.certainty, Function.comp_def,
    Summary.finitePart_toJson]

/-! ### Outcomes -/

/-- What is decoded of an outcome: its source, and either its report or its error.  An error is told
by every text of its chain, whatever these texts are and however many there are. -/
inductive PageOutcome.Told (view : Report → Json) : PageOutcome → Json → Prop
  | report (source : String) (r : Report) :
    Told view ⟨source, .ok r⟩ (.object [("source", .string source), ("report", view r)])
  | failed (source : String) (why : ErrorChain) :
    Told view ⟨source, .error (.failed why)⟩
      (.object [("source", .string source),
        ("error", .string (Text.joinWith ": " (why.failure :: why.causes)))])
  | invalidFacts (source : String) (complaints : List String) :
    Told view ⟨source, .error (.invalidFacts complaints)⟩
      (.object [("source", .string source),
        ("error", .string ("Invalid facts: " ++ Text.joinWith "; " complaints))])

/-- The value of a member of an object. -/
def Json.member? (name : String) : Json → Option Json
  | .object members => members.lookup name
  | _ => none

/-- The short form of a report agrees with the full one, and has its first three recommendations. -/
structure Json.Condenses (full short : Json) : Prop where
  shared : ∀ name ∈ ["visibility_score", "clickability_score", "overall_certainty", "summary"],
    ∃ v, full.member? name = some v ∧ short.member? name = some v
  recommendations : ∃ all, full.member? "recommendations" = some (.array all) ∧
    short.member? "recommendations" = some (.array (all.take 3))

/-- What is decoded of one outcome, in full and in short. -/
inductive Batch.Condensed : Json → Json → Prop
  | report {source full short : Json} (condenses : full.Condenses short) :
    Condensed (.object [("source", source), ("report", full)])
      (.object [("source", source), ("report", short)])
  | error {source message : Json} :
    Condensed (.object [("source", source), ("error", message)])
      (.object [("source", source), ("error", message)])

theorem Report.condenses (r : Report) : r.decoded.Condenses r.digest.decoded where
  shared := by
    simp [Json.member?, decoded, Digest.decoded, digest, List.lookup]
  recommendations :=
    ⟨_, rfl, by simp [Json.member?, Digest.decoded, digest, List.lookup, Digest.maxRecommendations]⟩

/-- An outcome with a view on its report as it is decoded. -/
def PageOutcome.decoded (view : Report → Json) (o : PageOutcome) : Json :=
  .object
    [("source", .string o.source),
      match o.result with
      | .ok r => ("report", view r)
      | .error e => ("error", .string e.message)]

theorem PageOutcome.told (view : Report → Json) (o : PageOutcome) :
    o.Told view (o.decoded view) := by
  obtain ⟨source, (why | complaints) | r⟩ := o
  · exact .failed source why
  · exact .invalidFacts source complaints
  · exact .report source r

theorem PageOutcome.condensed (o : PageOutcome) :
    Batch.Condensed (o.decoded Report.decoded) (o.decoded fun r => r.digest.decoded) := by
  obtain ⟨source, e | r⟩ := o
  · exact .error
  · exact .report r.condenses

theorem PageOutcome.finitePart_toJson (simple : Bool) (o : PageOutcome) :
    (o.toJson simple).finitePart = o.decoded fun r => (r.view simple).finitePart := by
  obtain ⟨source, e | r⟩ := o <;> simp [toJson, decoded]

theorem Batch.ofText?_indented (simple : Bool) (os : List PageOutcome) :
    Json.ofText? (Batch.toJson simple os).indented =
      some (.array (os.map (PageOutcome.decoded fun r => (r.view simple).finitePart))) := by
  rw [Json.indented, Json.ofText?_write, Batch.toJson, Json.finitePart_array, List.map_map]
  congr 2
  exact List.map_congr_left fun o _ => o.finitePart_toJson simple

/-- **A batch is decoded as it was listed.**  With reports or with their short forms, what a reader
of documents decodes is an array of the outcomes in their order: of each the exact source, and
either its report, member by member, or its error with the whole chain of causes.  Whatever
characters there are in the texts of a report or of an error, they are decoded exactly, and so are
the numbers of a report; a certainty that is not finite is decoded as null. -/
theorem Batch.indented_decodes (os : List PageOutcome) :
    ∃ full short : List Json,
      Json.ofText? (Batch.toJson false os).indented = some (.array full) ∧
        Json.ofText? (Batch.toJson true os).indented = some (.array short) ∧
        List.Forall₂ (PageOutcome.Told Report.decoded) os full ∧
        List.Forall₂ (PageOutcome.Told fun r => r.digest.decoded) os short ∧
        List.Forall₂ Batch.Condensed full short := by
  have full : (fun r : Report => (r.view false).finitePart) = Report.decoded :=
    funext Report.finitePart_toJson
  have short : (fun r : Report => (r.view true).finitePart) = fun r => r.digest.decoded :=
    funext fun r => r.digest.finitePart_toJson
  refine ⟨os.map (PageOutcome.decoded Report.decoded),
    os.map (PageOutcome.decoded fun r => r.digest.decoded), ?_, ?_, ?_, ?_, ?_⟩
  · rw [Batch.ofText?_indented, full]
  · rw [Batch.ofText?_indented, short]
  · exact List.forall₂_map_right_iff.2 (List.forall₂_same.2 fun o _ => o.told _)
  · exact List.forall₂_map_right_iff.2 (List.forall₂_same.2 fun o _ => o.told _)
  · rw [List.forall₂_map_left_iff, List.forall₂_map_right_iff, List.forall₂_same]
    exact fun o _ => o.condensed

/-- An error is listed with all of its causes, whatever has failed. -/
example :
    let e : ErrorChain :=
      ⟨"Failed to read facts from stdin", ["stream did not contain valid UTF-8"]⟩
    (Batch.toJson true [⟨"(stdin)", .error (.failed e)⟩]).indented =
      "[\n  \x7b\n    \"source\": \"(stdin)\",\n    \"error\": " ++
        "\"Failed to read facts from stdin: stream did not contain valid UTF-8\"\n  \x7d\n]" := by
  decide +kernel

end CallToAction
