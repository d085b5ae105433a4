import CallToAction.FactSheet.Basic

/-!
# Labels

A label is a qualitative reading of the facts: how long the content is, how clear the text of the
call to action, and so on.  `Labels.ofFacts` derives all six labels of a page; a rule tests for one
`Label`.

A fact that is absent or not finite is read as its `fallback`, which differs from the input default
for the largest other element: that is then taken to be small.
-/

namespace CallToAction

/-- How long the content of the page is. -/
inductive ContentLength
  | short
  | medium
  | long
  deriving DecidableEq, Repr

/-- How clear the text of the call to action is. -/
inductive TextClarity
  | good
  | medium
  | poor
  deriving DecidableEq, Repr

/-- How much the color of the call to action stands out. -/
inductive ColorUniqueness
  | unique
  | medium
  | similar
  deriving DecidableEq, Repr

/-- How prominent the call to action is among the other elements. -/
inductive VisualHierarchy
  | strong
  | medium
  | weak
  deriving DecidableEq, Repr

/-- The word for a length. -/
def ContentLength.text : ContentLength → String
  | short => "short"
  | medium => "medium"
  | long => "long"

/-- The word for a clarity. -/
def TextClarity.text : TextClarity → String
  | good => "good"
  | medium => "medium"
  | poor => "poor"

/-- The word for a uniqueness. -/
def ColorUniqueness.text : ColorUniqueness → String
  | unique => "unique"
  | medium => "medium"
  | similar => "similar"

/-- The word for a hierarchy. -/
def VisualHierarchy.text : VisualHierarchy → String
  | strong => "strong"
  | medium => "medium"
  | weak => "weak"

/-- A single qualitative finding. -/
inductive Label
  | contentLength (value : ContentLength)
  | textClarity (value : TextClarity)
  | colorUniqueness (value : ColorUniqueness)
  | visualHierarchy (value : VisualHierarchy)
  | mobileFriendly (value : Bool)
  | loadingFeedback (value : Bool)
  deriving DecidableEq, Repr

namespace Label

/-- The aspect of the page that a label is about. -/
def aspect : Label → String
  | contentLength _ => "content_length"
  | textClarity _ => "cta_text_clarity"
  | colorUniqueness _ => "cta_color_uniqueness"
  | visualHierarchy _ => "visual_hierarchy"
  | mobileFriendly _ => "mobile_friendly"
  | loadingFeedback _ => "loading_feedback"

/-- The word for what is found. -/
def value : Label → String
  | contentLength v => v.text
  | textClarity v => v.text
  | colorUniqueness v => v.text
  | visualHierarchy v => v.text
  | mobileFriendly v | loadingFeedback v => if v then "yes" else "no"

/-- A label as a test. -/
def text (label : Label) : String := s!"{label.aspect} == {label.value}"

/-- Every label. -/
def all : List Label :=
  [contentLength .short, contentLength .medium, contentLength .long,
    textClarity .good, textClarity .medium, textClarity .poor,
    colorUniqueness .unique, colorUniqueness .medium, colorUniqueness .similar,
    visualHierarchy .strong, visualHierarchy .medium, visualHierarchy .weak,
    mobileFriendly true, mobileFriendly false, loadingFeedback true, loadingFeedback false]

@[simp] theorem mem_all (label : Label) : label ∈ all := by
  rcases label with v | v | v | v | v | v <;> cases v <;> decide

end Label

/-- The six labels of a page. -/
structure Labels where
  contentLength : ContentLength
  textClarity : TextClarity
  colorUniqueness : ColorUniqueness
  visualHierarchy : VisualHierarchy
  mobileFriendly : Bool
  loadingFeedback : Bool
  deriving DecidableEq, Repr

namespace Labels

/-- The labels one by one. -/
def toList (ls : Labels) : List Label :=
  [.contentLength ls.contentLength, .textClarity ls.textClarity,
    .colorUniqueness ls.colorUniqueness, .visualHierarchy ls.visualHierarchy,
    .mobileFriendly ls.mobileFriendly, .loadingFeedback ls.loadingFeedback]

/-- Whether a label is among the six. -/
def has (ls : Labels) (label : Label) : Bool := ls.toList.contains label

/-- What a fact is read as when it is absent or not finite.  Labels have fallbacks of their own; the
facts at the end are not read for any label. -/
def fallback : Fact → Float
  | .wordCount => 300
  | .textLength => 15
  | .similarColors => 0
  | .width => 200
  | .height => 50
  | .largestOther => 150
  | .mobileWidth => 200
  | .mobileHeight => 48
  | .loadingAnimation => 1
  | fact => fact.initial

/-- The value from which labels are derived. -/
def reading (s : FactSheet) (fact : Fact) : Float :=
  match s.get fact with
  | some v => if v.isFinite then v else fallback fact
  | none => fallback fact

/-- The label of a word count. -/
def contentLengthOf (words : Float) : ContentLength :=
  if words < 200 then .short else if words < 400 then .medium else .long

/-- The label of a text length. -/
def textClarityOf (length : Float) : TextClarity :=
  if 5 < length ∧ length ≤ 15 then .good
  else if 15 < length ∧ length ≤ 25 then .medium
  else .poor

/-- The label of a number of elements in the same color. -/
def colorUniquenessOf (similar : Float) : ColorUniqueness :=
  if similar == 0 then .unique else if similar ≤ 2 then .medium else .similar

/-- The label of an area, seen beside the largest other element. -/
def visualHierarchyOf (area other : Float) : VisualHierarchy :=
  if other * 1.5 < area then .strong else if other * 1.1 < area then .medium else .weak

/-- The labels of a page. -/
def ofFacts (s : FactSheet) : Labels :=
  let read := reading s
  { contentLength := contentLengthOf (read .wordCount)
    textClarity := textClarityOf (read .textLength)
    colorUniqueness := colorUniquenessOf (read .similarColors)
    visualHierarchy := visualHierarchyOf (read .width * read .height) (read .largestOther)
    mobileFriendly := 180 ≤ read .mobileWidth ∧ 48 ≤ read .mobileHeight
    loadingFeedback := 0 < read .loadingAnimation }

end Labels

end CallToAction
