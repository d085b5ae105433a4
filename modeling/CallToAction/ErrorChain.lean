import CallToAction.Text.Layout

/-!
# Chains of errors

An error is told by a chain of texts: what failed, why it failed, and so on down to the first cause.
The texts may come from anywhere, and nothing is known about them.
-/

namespace CallToAction

/-- What failed, and its causes, the nearest one first. -/
structure ErrorChain where
  failure : String
  causes : List String
  deriving DecidableEq, Repr

namespace ErrorChain

/-- The texts of a chain, the first cause at the end. -/
def texts (e : ErrorChain) : List String := e.failure :: e.causes

/-- What failed because of an error. -/
def under (failure : String) (e : ErrorChain) : ErrorChain := ⟨failure, e.texts⟩

/-- The whole chain in one text. -/
def message (e : ErrorChain) : String := Text.joinWith ": " e.texts

end ErrorChain

end CallToAction
