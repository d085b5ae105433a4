import CallToAction.Batch.Basic
import CallToAction.Report.Document
import CallToAction.Report.Terminal

/-!
# Listings of a batch

A batch is listed with one line or one object per source: the scores or the report of its page, or
the error that stopped it.
-/

namespace CallToAction

namespace Terminal

/-- The line of an outcome, with its number in the batch. -/
def outcomeLine (colors : Bool) (number : Nat) (o : PageOutcome) : String :=
  let index := Ink.paint colors [.dimmed] (Text.padLeft 2 (Nat.repr number) ++ ".")
  match o.result with
  | .ok r =>
    index ++ " V " ++ score colors r.visibility ++ "  C " ++ score colors r.clickability
      ++ "  CF " ++ Text.padLeft 4 (percentage r.certainty) ++ "  " ++ o.source
  | .error e =>
    index ++ " " ++ o.source ++ "  " ++ Ink.paint colors [.red] ("error: " ++ e.message)

/-- One line per outcome. -/
def outcomes (colors : Bool) (os : List PageOutcome) : String :=
  if os.isEmpty then "No pages analyzed."
  else Text.lines ((os.zipIdx 1).map fun (o, number) => outcomeLine colors number o)

end Terminal

/-- A report as an object: the whole of it, or its digest. -/
def Report.view (simple : Bool) (r : Report) : Json :=
  if simple then r.digest.toJson else r.toJson

/-- An outcome as an object. -/
def PageOutcome.toJson (simple : Bool) (o : PageOutcome) : Json :=
  .object
    [("source", .string o.source),
      match o.result with
      | .ok r => ("report", r.view simple)
      | .error e => ("error", .string e.message)]

/-- The outcomes as an array. -/
def Batch.toJson (simple : Bool) (os : List PageOutcome) : Json :=
  .array (os.map (PageOutcome.toJson simple))

end CallToAction
