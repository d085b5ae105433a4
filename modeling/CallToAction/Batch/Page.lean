import CallToAction.Batch.Source
import CallToAction.FactSheet.Validity
import CallToAction.Report.Basic

/-!
# Pages

A page is analyzed with the facts of its source between two layers: a baseline below them and
overrides above them.  A page fails on its own if its source cannot be read, holds no fact document,
or leads to facts that are not valid.
-/

namespace CallToAction

/-- What is layered around the facts of every page. -/
structure Layers where
  baseline : FactSheet
  overrides : FactSheet
  deriving DecidableEq

/-- The facts that a page is analyzed with. -/
def Layers.around (layers : Layers) (page : FactSheet) : FactSheet :=
  (layers.baseline.overlay page).overlay layers.overrides

/-- Why a page cannot be analyzed. -/
inductive PageError
  /-- Its source cannot be read, or one of its tasks has come to nothing. -/
  | failed (why : ErrorChain)
  | invalidFacts (complaints : List String)
  deriving DecidableEq

/-- An error as a chain. -/
def PageError.chain : PageError → ErrorChain
  | failed why => why
  | invalidFacts complaints => ⟨"Invalid facts: " ++ Text.joinWith "; " complaints, []⟩

/-- The wording of a `PageError`, its causes last. -/
def PageError.message (e : PageError) : String := e.chain.message

/-- What sources are read from. -/
structure Inputs where
  files : FileTree
  /-- The text on the standard input. -/
  standard : String
  /-- The words of the parsers. -/
  [wording : Document.Wording]

/-- The facts of a source. -/
def Source.read (inputs : Inputs) : Source → Except PageError FactSheet
  | inline => .ok .empty
  | standardInput =>
    match FactSheet.parse inputs.wording (.ofText inputs.standard) inputs.standard with
    | .ok facts => .ok facts
    | .error e => .error (.failed (e.under "Failed to parse facts from stdin"))
  | file path =>
    match inputs.files.read path with
    | .error cause => .error (.failed ⟨s!"Failed to read fact file at {path}", [cause.message]⟩)
    | .ok text =>
      match FactSheet.parse inputs.wording (.ofPath path) text with
      | .ok facts => .ok facts
      | .error e => .error (.failed (e.under s!"Failed to parse facts in {path}"))

/-- Analyze facts that must be valid. -/
def KnowledgeBase.analyzeValid (kb : KnowledgeBase) (facts : FactSheet) :
    Except PageError Report :=
  match facts.complaints "" with
  | [] => .ok (kb.analyze facts)
  | complaints => .error (.invalidFacts complaints)

/-- The report on the page of a source. -/
def Source.analyze (kb : KnowledgeBase) (layers : Layers) (inputs : Inputs) (source : Source) :
    Except PageError Report :=
  match source.read inputs with
  | .error e => .error e
  | .ok page => kb.analyzeValid (layers.around page)

end CallToAction
