import CallToAction.Batch.Listing
import CallToAction.CommandLine.Basic
import CallToAction.CommandLine.Failure

/-!
# Presentation of results

The outcomes of an analysis become one text.  A single page is shown on its own, and must have
succeeded; several pages are listed whatever became of them.  The settings decide where the command
line says nothing, and a result that goes to a file is never colored.
-/

namespace CallToAction.CommandLine

/-- How results are presented. -/
structure Presentation where
  format : OutputFormat
  /-- Digests in place of reports. -/
  simple : Bool
  colors : Bool
  /-- How many recommendations are shown. -/
  limit : Nat
  deriving DecidableEq, Repr

/-- Whether results are colored, on a terminal or not. -/
def colored (settings : Settings) (terminal : Bool) : Bool :=
  (settings.output.color.getD .auto).colors terminal

/-- The format of results. -/
def formatOf (settings : Settings) (format : Option OutputFormat) : OutputFormat :=
  format.getD (settings.output.format.getD .text)

/-- How the results of an analysis are presented. -/
def AnalysisRequest.presentation (request : AnalysisRequest) (settings : Settings)
    (terminal : Bool) : Presentation where
  format := formatOf settings request.format
  simple := request.simple
  colors := request.output.isNone && colored settings terminal
  limit := settings.output.recommendations.getD Evaluation.maxRecommendations

namespace Presentation

/-- The text of a single page. -/
def page (p : Presentation) (r : Report) : String :=
  match p.format, p.simple with
  | .json, simple => (r.view simple).indented
  | .text, true => Terminal.digest p.colors r.digest
  | .text, false => Terminal.report p.colors p.limit r

/-- The text of several pages. -/
def batch (p : Presentation) (os : List PageOutcome) : String :=
  match p.format with
  | .json => (Batch.toJson p.simple os).indented
  | .text => Terminal.outcomes p.colors os

/-- The text of outcomes. -/
def text (p : Presentation) : List PageOutcome → Except Failure String
  | [⟨_, .ok r⟩] => .ok (p.page r)
  | [⟨source, .error cause⟩] => .error (.page source cause)
  | os => .ok (p.batch os)

end Presentation

/-- How the scores of a page came about, if it succeeded. -/
def diagnosis (o : PageOutcome) : String :=
  match o.result with
  | .ok r =>
    Text.lines
      [o.source ++ ":", Terminal.breakdown "Visibility" r.diagnostics.visibility,
        Terminal.breakdown "Clickability" r.diagnostics.clickability,
        Terminal.failures r.diagnostics.failed, "", ""]
  | .error _ => ""

/-- How the scores of pages came about. -/
def diagnoses (os : List PageOutcome) : String := Text.joinWith "" (os.map diagnosis)

end CallToAction.CommandLine
