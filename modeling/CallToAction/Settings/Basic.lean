import CallToAction.Evaluation
import CallToAction.FactSheet.Validity

/-!
# Settings

What a user sets once and for all: how results are shown, and facts that lie below those of every
page.  Each setting may be left out.

`Settings.complaints` reports every setting that is out of range.
-/

namespace CallToAction

/-- How a result is written. -/
inductive OutputFormat
  | text
  | json
  deriving DecidableEq, Repr

/-- The name of a format. -/
def OutputFormat.name : OutputFormat → String
  | text => "text"
  | json => "json"

/-- The format with a name. -/
def OutputFormat.named? (s : String) : Option OutputFormat :=
  [text, json].find? fun format => format.name = s

/-- When text is colored. -/
inductive ColorMode
  /-- Where it is written to a terminal. -/
  | auto
  | always
  | never
  deriving DecidableEq, Repr

/-- The name of a color mode. -/
def ColorMode.name : ColorMode → String
  | auto => "auto"
  | always => "always"
  | never => "never"

/-- The color mode with a name. -/
def ColorMode.named? (s : String) : Option ColorMode :=
  [auto, always, never].find? fun mode => mode.name = s

/-- Whether text is colored. -/
def ColorMode.colors (terminal : Bool) : ColorMode → Bool
  | auto => terminal
  | always => true
  | never => false

/-- How results are shown. -/
structure OutputSettings where
  format : Option OutputFormat
  color : Option ColorMode
  /-- How many recommendations are shown. -/
  recommendations : Option Nat
  deriving DecidableEq, Repr

/-- What a user sets once and for all. -/
structure Settings where
  output : OutputSettings
  /-- Facts that lie below those of every page. -/
  defaults : Option FactSheet
  deriving DecidableEq

/-- Nothing is set about results. -/
def OutputSettings.unset : OutputSettings := ⟨none, none, none⟩

namespace Settings

/-- Nothing is set. -/
def unset : Settings := ⟨.unset, none⟩

/-- The complaint about a number of recommendations, if it is out of range. -/
def recommendationsComplaint? (n : Nat) : Option String :=
  if 1 ≤ n ∧ n ≤ Evaluation.maxRecommendations then none
  else
    let most := Evaluation.maxRecommendations
    some s!"output.recommendations: must be between 1 and {most} (got {n})"

/-- One line per setting that is out of range. -/
def complaints (s : Settings) : List String :=
  (s.output.recommendations.bind recommendationsComplaint?).toList
    ++ (s.defaults.map (FactSheet.complaints "defaults")).getD []

end Settings

end CallToAction
