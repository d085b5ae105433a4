import CallToAction.Report.Basic
import CallToAction.Json.Basic

/-!
# Reports as documents

Reports and digests as JSON objects, with their members in a fixed order.  Diagnostics are left
out.
-/

namespace CallToAction

/-- A finding as an object. -/
def Finding.toJson (f : Finding) : Json :=
  .object
    [("rule_id", .string f.ruleId), ("priority", .int f.priority),
      ("certainty", .float f.certainty), ("conclusion", .string f.conclusion),
      ("explanation", .string f.explanation), ("category", .string f.category.text)]

/-- The labels as an object. -/
def Labels.toJson (ls : Labels) : Json :=
  .object (ls.toList.map fun label => (label.aspect, .string label.value))

/-- A summary as an object. -/
def Summary.toJson (s : Summary) : Json :=
  .object
    [("visibility_status", .string s.visibility.text),
      ("clickability_status", .string s.clickability.text),
      ("certainty_level", .string s.certainty.text),
      ("overall_status", .string s.overall),
      ("status", .string s.grade.text),
      ("average_score", .string s.average)]

/-- A report as an object. -/
def Report.toJson (r : Report) : Json :=
  .object
    [("visibility_score", .int r.visibility),
      ("clickability_score", .int r.clickability),
      ("overall_certainty", .float r.certainty),
      ("activated_rules", .array (r.findings.map Finding.toJson)),
      ("recommendations", .array (r.recommendations.map Json.string)),
      ("qualitative_inputs", r.labels.toJson),
      ("detailed_explanation", .string r.reasoning),
      ("summary", r.summary.toJson)]

/-- A digest as an object. -/
def Digest.toJson (d : Digest) : Json :=
  .object
    [("visibility_score", .int d.visibility),
      ("clickability_score", .int d.clickability),
      ("overall_certainty", .float d.certainty),
      ("recommendations", .array (d.recommendations.map Json.string)),
      ("summary", d.summary.toJson)]

end CallToAction
