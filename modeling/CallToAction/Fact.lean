import CallToAction.Text.Blank

/-!
# Facts

The seventeen quantities measured on a landing page around its call to action (CTA), in the order
in which documents list them.  Each has a name, by which documents and assignments refer to it, and
an input default, which stands for it where nothing was measured.

* `named?_name`: a fact is found by its name;
* `all_index`: facts are numbered in their order.
-/

namespace CallToAction

/-- A quantity measured on a landing page. -/
inductive Fact
  /-- Pixels from the top of the page to the CTA. -/
  | position
  /-- Pixels across the CTA. -/
  | width
  /-- Pixels from the top of the CTA to its bottom. -/
  | height
  /-- The contrast ratio of the CTA against its background, to one. -/
  | contrast
  /-- Pixels of whitespace around the CTA. -/
  | whitespace
  /-- The percentage of the page that users scroll through. -/
  | scrollDepth
  /-- The percentage of users who click the CTA. -/
  | clickRate
  /-- How many CTAs the page shows. -/
  | ctaCount
  /-- Characters in the label of the CTA. -/
  | textLength
  /-- Seconds until a user reaches the CTA. -/
  | timeToCta
  /-- How many clickable elements come before the CTA. -/
  | elementsBefore
  /-- Words on the page. -/
  | wordCount
  /-- How many elements share the color of the CTA. -/
  | similarColors
  /-- Square pixels of the largest element other than the CTA. -/
  | largestOther
  /-- Pixels across the CTA on a mobile device. -/
  | mobileWidth
  /-- Pixels from top to bottom of the CTA on a mobile device. -/
  | mobileHeight
  /-- One if the CTA shows a loading animation after a click, else zero. -/
  | loadingAnimation
  deriving DecidableEq, Repr

namespace Fact

/-- Every fact, in document order. -/
def all : List Fact :=
  [position, width, height, contrast, whitespace, scrollDepth, clickRate, ctaCount, textLength,
    timeToCta, elementsBefore, wordCount, similarColors, largestOther, mobileWidth, mobileHeight,
    loadingAnimation]

/-- The name of a fact in documents, assignments and messages. -/
def name : Fact → String
  | position => "cta_position_y"
  | width => "cta_width"
  | height => "cta_height"
  | contrast => "contrast_ratio"
  | whitespace => "whitespace_around_cta"
  | scrollDepth => "scroll_depth"
  | clickRate => "cta_click_rate"
  | ctaCount => "number_of_ctas"
  | textLength => "cta_text_length"
  | timeToCta => "time_to_cta"
  | elementsBefore => "clickable_elements_before_cta"
  | wordCount => "content_word_count"
  | similarColors => "similar_color_elements"
  | largestOther => "largest_other_element_size"
  | mobileWidth => "cta_mobile_width"
  | mobileHeight => "cta_mobile_height"
  | loadingAnimation => "has_loading_animation"

/-- The value that stands for a fact that was not measured. -/
def initial : Fact → Float
  | position => 500
  | width => 200
  | height => 50
  | contrast => 4.5
  | whitespace => 40
  | scrollDepth => 60
  | clickRate => 3.5
  | ctaCount => 1
  | textLength => 15
  | timeToCta => 8
  | elementsBefore => 3
  | wordCount => 300
  | similarColors => 0
  | largestOther => 8000
  | mobileWidth => 200
  | mobileHeight => 48
  | loadingAnimation => 1

/-- The place of a fact in document order. -/
def index : Fact → Fin 17
  | position => 0
  | width => 1
  | height => 2
  | contrast => 3
  | whitespace => 4
  | scrollDepth => 5
  | clickRate => 6
  | ctaCount => 7
  | textLength => 8
  | timeToCta => 9
  | elementsBefore => 10
  | wordCount => 11
  | similarColors => 12
  | largestOther => 13
  | mobileWidth => 14
  | mobileHeight => 15
  | loadingAnimation => 16

/-- The fact with exactly this name. -/
def named? (s : String) : Option Fact := all.find? fun fact => fact.name = s

/-- The fact whose name is this text, up to surrounding white space. -/
def ofText? (s : String) : Option Fact := named? (Text.trim s)

@[simp] theorem length_all : all.length = 17 := rfl

@[simp] theorem mem_all (fact : Fact) : fact ∈ all := by
  cases fact <;> decide

theorem all_index (fact : Fact) : all[fact.index] = fact := by
  cases fact <;> rfl

theorem name_injective {a b : Fact} (h : a.name = b.name) : a = b := by
  revert h
  cases a <;> cases b <;> decide

theorem named?_name (fact : Fact) : named? fact.name = some fact := by
  cases fact <;> decide

end Fact

end CallToAction
