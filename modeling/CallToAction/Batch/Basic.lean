import CallToAction.Batch.Page

/-!
# Batches

The sources of a batch are analyzed at the same time, so their pages are finished in any order.
Each finished page carries the place of its source, and the outcomes are put back in the order of
the sources.
-/

namespace CallToAction

/-- What became of the page of a source. -/
structure PageOutcome where
  /-- The name of the source. -/
  source : String
  result : Except PageError Report

namespace Batch

/-- What becomes of the page of a source. -/
def outcome (kb : KnowledgeBase) (layers : Layers) (inputs : Inputs) (source : Source) :
    PageOutcome :=
  ⟨source.name, source.analyze kb layers inputs⟩

/-- The outcomes with the places of their sources, in the order in which pages are finished. -/
def finished (outcome : Source → PageOutcome) (sources : List Source) (order : List Nat) :
    List (Nat × PageOutcome) :=
  order.filterMap fun place => (sources[place]?).map fun source => (place, outcome source)

/-- Outcomes in the order of their places. -/
def inOrder (finished : List (Nat × PageOutcome)) : List PageOutcome :=
  (finished.mergeSort fun a b => a.1 ≤ b.1).map Prod.snd

/-- The outcomes of all sources, when their pages are finished in an order. -/
def analyzeIn (order : List Nat) (kb : KnowledgeBase) (layers : Layers) (inputs : Inputs)
    (sources : List Source) : List PageOutcome :=
  inOrder (finished (outcome kb layers inputs) sources order)

/-- The outcomes of all sources. -/
def analyze (kb : KnowledgeBase) (layers : Layers) (inputs : Inputs) (sources : List Source) :
    List PageOutcome :=
  analyzeIn (List.range sources.length) kb layers inputs sources

end Batch

end CallToAction
