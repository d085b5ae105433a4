import CallToAction.FactSheet.Basic
import CallToAction.Number.Literal

/-!
# Assignments

An assignment `name=number` overrides one fact.  It is split at its first equals sign, and white
space around the name and around the number is of no account.
-/

namespace CallToAction

/-- An override of one fact. -/
structure Assignment where
  fact : Fact
  value : Float

namespace Assignment

/-- Why a text is no assignment. -/
inductive Error
  | noEquals (text : String)
  | unknownFact (name : String)
  | invalidNumber (fact : Fact) (text : String) (cause : Number.ReadError)
  deriving DecidableEq

/-- The wording of an error, its cause last. -/
def Error.message : Error → String
  | noEquals text => s!"Expected key=value, got '{text}'"
  | unknownFact name => s!"Unknown fact '{name}'"
  | invalidNumber fact text cause =>
    s!"Invalid number for {fact.name}: '{text}': {cause.message}"

/-- The parts of a text before and after its first equals sign. -/
def split? (s : String) : Option (String × String) :=
  match s.toList.span (· ≠ '=') with
  | (_, []) => none
  | (key, _ :: value) => some (.ofList key, .ofList value)

/-- Read an assignment. -/
def ofText (s : String) : Except Error Assignment :=
  match split? s with
  | none => .error (.noEquals s)
  | some (key, value) =>
    match Fact.ofText? key with
    | none => .error (.unknownFact (Text.trim key))
    | some fact =>
      match Number.read (Text.trim value) with
      | .error cause => .error (.invalidNumber fact (Text.trim value) cause)
      | .ok v => .ok ⟨fact, v⟩

end Assignment

namespace FactSheet

/-- Write the value of an assignment. -/
def assign (s : FactSheet) (a : Assignment) : FactSheet := s.set a.fact a.value

/-- Carry out an assignment given as text.  The sheet comes back with what came of it. -/
def carryOut (s : FactSheet) (text : String) : FactSheet × Except Assignment.Error Unit :=
  match Assignment.ofText text with
  | .ok a => (s.assign a, .ok ())
  | .error e => (s, .error e)

/-- The sheet with an assignment carried out, or what is wrong with it. -/
def assignText (s : FactSheet) (text : String) : Except Assignment.Error FactSheet :=
  match s.carryOut text with
  | (s, .ok ()) => .ok s
  | (_, .error e) => .error e

/-- Carry out one more assignment, with those that were malformed before it. -/
def carryOutNext (s : FactSheet × List (String × Assignment.Error)) (text : String) :
    FactSheet × List (String × Assignment.Error) :=
  match s.1.carryOut text with
  | (sheet, .ok ()) => (sheet, s.2)
  | (sheet, .error e) => (sheet, s.2 ++ [(text, e)])

/-- Carry out assignments on an empty sheet, one after another.  The sheet comes back with those
that are malformed, in order. -/
def carryOutAll (texts : List String) : FactSheet × List (String × Assignment.Error) :=
  texts.foldl carryOutNext (empty, [])

/-- The overrides of a list of assignments, or every assignment that is malformed, in order.  The
last assignment of a fact counts. -/
def ofAssignments (texts : List String) : Except (List (String × Assignment.Error)) FactSheet :=
  match carryOutAll texts with
  | (s, []) => .ok s
  | (_, errors) => .error errors

end FactSheet

end CallToAction
