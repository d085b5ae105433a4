import CallToAction.Main
import CallToAction.Proofs.Batch.Decoding
import CallToAction.Proofs.Batch.Expansion
import CallToAction.Proofs.Batch.Interleaving
import CallToAction.Proofs.Certainty.Joint
import CallToAction.Proofs.Certainty.Odds
import CallToAction.Proofs.Certainty.Rounding
import CallToAction.Proofs.CommandLine.Destination
import CallToAction.Proofs.CommandLine.ExitStatus
import CallToAction.Proofs.CommandLine.InvalidFacts
import CallToAction.Proofs.CommandLine.Layering
import CallToAction.Proofs.CommandLine.Outcomes
import CallToAction.Proofs.CommandLine.Overrides
import CallToAction.Proofs.Document.Entries
import CallToAction.Proofs.Document.Formats
import CallToAction.Proofs.Document.Json
import CallToAction.Proofs.Document.RoundTrip
import CallToAction.Proofs.Document.Yaml
import CallToAction.Proofs.Evaluation.Agreement
import CallToAction.Proofs.Evaluation.Certainty
import CallToAction.Proofs.Evaluation.Consistency
import CallToAction.Proofs.Evaluation.Failure
import CallToAction.Proofs.Evaluation.Filling
import CallToAction.Proofs.Evaluation.Footprint
import CallToAction.Proofs.Evaluation.Ranking
import CallToAction.Proofs.FactSheet.Assignment
import CallToAction.Proofs.FactSheet.Filling
import CallToAction.Proofs.FactSheet.Malformed
import CallToAction.Proofs.FactSheet.Operation
import CallToAction.Proofs.FactSheet.Reading
import CallToAction.Proofs.FileTree.Keeping
import CallToAction.Proofs.FileTree.Writing
import CallToAction.Proofs.Glob.Matching
import CallToAction.Proofs.Json.Exact
import CallToAction.Proofs.Json.Numeral
import CallToAction.Proofs.Json.Object
import CallToAction.Proofs.Json.Reader
import CallToAction.Proofs.Json.Strict
import CallToAction.Proofs.KnowledgeBase.Table
import CallToAction.Proofs.KnowledgeBase.Violations
import CallToAction.Proofs.Number.Line
import CallToAction.Proofs.Number.Literal
import CallToAction.Proofs.Number.Reading
import CallToAction.Proofs.Number.Shortest
import CallToAction.Proofs.Reasoning.Recovery
import CallToAction.Proofs.Report.Colors
import CallToAction.Proofs.Rule.Condition
import CallToAction.Proofs.Rule.Regrouping
import CallToAction.Proofs.Rule.Truth
import CallToAction.Proofs.Rule.Wording
import CallToAction.Proofs.Score.Bounds
import CallToAction.Proofs.Score.Factors
import CallToAction.Proofs.Score.Improvement
import CallToAction.Proofs.Settings.Defaults
import CallToAction.Proofs.Settings.Starter
import CallToAction.Proofs.Text.Ink
import CallToAction.Proofs.Yaml.Block
import CallToAction.Proofs.Yaml.Flow
import CallToAction.Proofs.Yaml.Nodes
import CallToAction.Reasoning
