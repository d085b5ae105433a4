import CallToAction.Fact

/-!
# Fact sheets

A fact sheet holds what is known of one page: for each of the seventeen facts a number, or nothing.
One table says where a fact is read and another one where it is written; `get_put` is that they
agree.  Sheets are seen through `FactSheet.get`, and every operation is described by what it does to
that view.  An operation on all facts is a loop over them, which `get_foldl` describes once for all.

* `FactSheet.ext_get`: two sheets with the same values are equal;
* `get_set_self`, `get_set_of_ne`: a value is written to its own fact alone;
* `get_overlay`: laid over another sheet, a sheet hides the facts it has values for.
-/

namespace CallToAction

/-- What is known of a page: a slot for each fact, in document order. -/
@[ext]
structure FactSheet where
  position : Option Float := none
  width : Option Float := none
  height : Option Float := none
  contrast : Option Float := none
  whitespace : Option Float := none
  scrollDepth : Option Float := none
  clickRate : Option Float := none
  ctaCount : Option Float := none
  textLength : Option Float := none
  timeToCta : Option Float := none
  elementsBefore : Option Float := none
  wordCount : Option Float := none
  similarColors : Option Float := none
  largestOther : Option Float := none
  mobileWidth : Option Float := none
  mobileHeight : Option Float := none
  loadingAnimation : Option Float := none
  deriving DecidableEq

namespace FactSheet

/-- The sheet on which nothing is known. -/
def empty : FactSheet := {}

/-- What stands in the slot of a fact. -/
def get (s : FactSheet) : Fact → Option Float
  | .position => s.position
  | .width => s.width
  | .height => s.height
  | .contrast => s.contrast
  | .whitespace => s.whitespace
  | .scrollDepth => s.scrollDepth
  | .clickRate => s.clickRate
  | .ctaCount => s.ctaCount
  | .textLength => s.textLength
  | .timeToCta => s.timeToCta
  | .elementsBefore => s.elementsBefore
  | .wordCount => s.wordCount
  | .similarColors => s.similarColors
  | .largestOther => s.largestOther
  | .mobileWidth => s.mobileWidth
  | .mobileHeight => s.mobileHeight
  | .loadingAnimation => s.loadingAnimation

/-- Replace what stands in the slot of a fact. -/
def put (s : FactSheet) : Fact → Option Float → FactSheet
  | .position, v => { s with position := v }
  | .width, v => { s with width := v }
  | .height, v => { s with height := v }
  | .contrast, v => { s with contrast := v }
  | .whitespace, v => { s with whitespace := v }
  | .scrollDepth, v => { s with scrollDepth := v }
  | .clickRate, v => { s with clickRate := v }
  | .ctaCount, v => { s with ctaCount := v }
  | .textLength, v => { s with textLength := v }
  | .timeToCta, v => { s with timeToCta := v }
  | .elementsBefore, v => { s with elementsBefore := v }
  | .wordCount, v => { s with wordCount := v }
  | .similarColors, v => { s with similarColors := v }
  | .largestOther, v => { s with largestOther := v }
  | .mobileWidth, v => { s with mobileWidth := v }
  | .mobileHeight, v => { s with mobileHeight := v }
  | .loadingAnimation, v => { s with loadingAnimation := v }

/-- Write a value for a fact. -/
def set (s : FactSheet) (fact : Fact) (value : Float) : FactSheet := s.put fact (some value)

/-- The sheet on which every fact has its input default. -/
def defaults : FactSheet := Fact.all.foldl (fun s fact => s.set fact fact.initial) empty

/-- Write the value that `top` has for a fact, if it has one. -/
def cover (top s : FactSheet) (fact : Fact) : FactSheet :=
  match top.get fact with
  | some v => s.set fact v
  | none => s

/-- Lay `top` over a sheet: a fact that `top` has a value for takes that value. -/
def overlay (s top : FactSheet) : FactSheet := Fact.all.foldl (cover top) s

/-- The value of a fact, or its input default where there is none or it is not finite. -/
def getOrInitial (s : FactSheet) (fact : Fact) : Float :=
  match s.get fact with
  | some v => if v.isFinite then v else fact.initial
  | none => fact.initial

/-- The facts with a value, in document order. -/
def present (s : FactSheet) : List (Fact × Float) :=
  Fact.all.filterMap fun fact => (s.get fact).map (fact, ·)

/-- The facts without a value, in document order. -/
def missing (s : FactSheet) : List Fact := Fact.all.filter fun fact => (s.get fact).isNone

/-- The sheet with the given values, later ones replacing earlier ones. -/
def ofList (values : List (Fact × Float)) : FactSheet :=
  values.foldl (fun s entry => s.set entry.1 entry.2) empty

theorem ext_get {a b : FactSheet} (h : ∀ fact, a.get fact = b.get fact) : a = b :=
  FactSheet.ext (h .position) (h .width) (h .height) (h .contrast) (h .whitespace)
    (h .scrollDepth) (h .clickRate) (h .ctaCount) (h .textLength) (h .timeToCta)
    (h .elementsBefore) (h .wordCount) (h .similarColors) (h .largestOther) (h .mobileWidth)
    (h .mobileHeight) (h .loadingAnimation)

@[simp] theorem get_empty (fact : Fact) : empty.get fact = none := by
  cases fact <;> rfl

/-- Facts are read where they are written, and nowhere else. -/
theorem get_put (s : FactSheet) (fact other : Fact) (v : Option Float) :
    (s.put fact v).get other = if other = fact then v else s.get other := by
  cases fact <;> cases other <;> rfl

@[simp] theorem get_set_self (s : FactSheet) (fact : Fact) (v : Float) :
    (s.set fact v).get fact = some v :=
  (get_put s fact fact _).trans (if_pos rfl)

theorem get_set_of_ne (s : FactSheet) {fact other : Fact} (v : Float) (h : other ≠ fact) :
    (s.set fact v).get other = s.get other :=
  (get_put s fact other _).trans (if_neg h)

/-! ### Loops over facts -/

/-- A loop that writes each fact from what is known of it, in a way that is not changed by writing
it again, writes the facts that it goes through and leaves the others alone. -/
theorem get_foldl {step : FactSheet → Fact → FactSheet} {f : Fact → Option Float → Option Float}
    (writes : ∀ s fact other,
      (step s fact).get other = if other = fact then f fact (s.get fact) else s.get other)
    (again : ∀ fact v, f fact (f fact v) = f fact v) (facts : List Fact) (s : FactSheet)
    (key : Fact) :
    (facts.foldl step s).get key = if key ∈ facts then f key (s.get key) else s.get key := by
  induction facts generalizing s with
  | nil => simp
  | cons fact facts ih =>
    rw [List.foldl_cons, ih, writes]
    by_cases here : key = fact
    · subst here
      simp [again]
    · simp [here]

/-- A loop over all facts that writes the same whatever it finds. -/
theorem get_foldl_put (f : Fact → Option Float) (s : FactSheet) (fact : Fact) :
    (Fact.all.foldl (fun s fact => s.put fact (f fact)) s).get fact = f fact := by
  have writes (s : FactSheet) (fact other : Fact) :
      (s.put fact (f fact)).get other = if other = fact then f fact else s.get other :=
    get_put s fact other _
  rw [get_foldl (f := fun fact _ => f fact) writes fun _ _ => rfl, if_pos (Fact.mem_all fact)]

@[simp] theorem get_defaults (fact : Fact) : defaults.get fact = some fact.initial :=
  get_foldl_put (fun fact => some fact.initial) empty fact

theorem get_cover (top s : FactSheet) (fact other : Fact) :
    (cover top s fact).get other =
      if other = fact then (top.get fact).or (s.get fact) else s.get other := by
  unfold cover
  cases top.get fact with
  | some v => exact get_put s fact other _
  | none =>
    by_cases h : other = fact
    · simp [h]
    · simp [h]

@[simp] theorem get_overlay (s top : FactSheet) (fact : Fact) :
    (s.overlay top).get fact = (top.get fact).or (s.get fact) := by
  rw [overlay, get_foldl (f := fun fact v => (top.get fact).or v) (get_cover top) ?_,
    if_pos (Fact.mem_all fact)]
  intro fact v
  cases top.get fact <;> rfl

end FactSheet

end CallToAction
