import CallToAction.Report.Basic
import CallToAction.Text.Blank
import CallToAction.Text.Ink

/-!
# Reports on a terminal

A report is shown as four lines of scores, the first recommendations, and the reasoning trace; a
digest as the same without the trace.  Ink is put on the parts of a line after they have been
padded.
-/

namespace CallToAction

/-- The color of a grade. -/
def Grade.ink : Grade → Ink
  | excellent => .green
  | good => .cyan
  | medium => .yellow
  | weak => .red

namespace Terminal

/-- A text in the color of a grade. -/
def graded (colors : Bool) (grade : Grade) (s : String) : String :=
  Ink.paint colors [grade.ink, .bold] s

/-- A score out of 100, in the color of its grade. -/
def score (colors : Bool) (score : Nat) : String :=
  graded colors (.ofScore (.ofNat score)) (Text.padLeft 3 (Nat.repr score) ++ "/100")

/-- The scores, the certainty and the judgement of the whole. -/
def summaryLines (colors : Bool) (visibility clickability : Nat) (certainty : Float)
    (summary : Summary) : List String :=
  let heading (s : String) := Ink.paint colors [.bold] s
  let overall := graded colors summary.grade summary.overall
  [Text.joinWith "  "
      [heading "Visibility  ", score colors visibility, summary.visibility.text],
    Text.joinWith "  "
      [heading "Clickability", score colors clickability, summary.clickability.text],
    Text.joinWith "  "
      [heading "Certainty   ", Text.padLeft 7 (percentage certainty), summary.certainty.text],
    Text.joinWith "  " [heading "Overall     ", s!"{overall} (average {summary.average})"]]

/-- The line of a recommendation, with its number.  What is written with colors and what is written
without them are two texts, composed apart. -/
def recommendationLine (colors : Bool) (number : Nat) (s : String) : String :=
  let index := Text.padLeft 2 (Nat.repr number) ++ "."
  if colors then Ink.dimmed.dress index ++ " " ++ s else index ++ " " ++ s

/-- The first recommendations, and how many more there are. -/
def recommendationLines (colors : Bool) (limit : Nat) (recommendations : List String) :
    List String :=
  if recommendations.isEmpty then ["No immediate improvements needed."]
  else
    [if colors then Ink.bold.dress "Recommendations:" else "Recommendations:"]
    ++ (((recommendations.take limit).zipIdx 1).map fun (s, number) =>
      recommendationLine colors number s)
    ++ (if limit < recommendations.length then
        [s!"    ... and {Nat.repr (recommendations.length - limit)} more"]
      else [])

/-- A report with its first recommendations. -/
def report (colors : Bool) (limit : Nat) (r : Report) : String :=
  Text.lines
    (summaryLines colors r.visibility r.clickability r.certainty r.summary
      ++ [""] ++ recommendationLines colors limit r.recommendations
      ++ ["", Text.trimEnd r.reasoning])

/-- A digest. -/
def digest (colors : Bool) (d : Digest) : String :=
  Text.lines
    (summaryLines colors d.visibility d.clickability d.certainty d.summary
      ++ [""] ++ recommendationLines colors d.recommendations.length d.recommendations)

/-- A number with its sign, also when it is not negative. -/
def signedInt (i : Int) : String := if 0 ≤ i then "+" ++ Int.repr i else Int.repr i

/-- Every adjustment of a score. -/
def breakdown (name : String) (b : Breakdown) : String :=
  Text.lines
    ([s!"{name} score: {Nat.repr b.score} (raw {Int.repr b.raw})"]
      ++ (if b.adjustments.isEmpty then ["  no adjustments"]
        else b.adjustments.map fun a =>
          s!"  {Text.padLeft 4 (signedInt a.delta)}  {Text.padRight 12 a.factor} {a.detail}"))

/-- The rules that could not be evaluated, with the reasons. -/
def failures (failed : List (String × String)) : String :=
  if failed.isEmpty then "All rules evaluated."
  else
    Text.lines
      (s!"{Nat.repr failed.length} rule(s) could not be evaluated:"
        :: failed.map fun (id, reason) => s!"  {id}: {reason}")

end Terminal

end CallToAction
