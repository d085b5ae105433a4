import CallToAction.FactSheet.Basic

/-!
# Entries of fact documents

A document says something about some facts: a number, or that there is none.
-/

namespace CallToAction

/-- A fact and what a document says about it. -/
abbrev Document.Entry := Fact × Option Float

/-- The sheet with the given entries. -/
def FactSheet.ofEntries (entries : List Document.Entry) : FactSheet :=
  .ofList (entries.filterMap fun (fact, v) => v.map (fact, ·))

end CallToAction
