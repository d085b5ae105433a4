import CallToAction.Document.Entry
import CallToAction.Json.Basic
import CallToAction.Json.Lexeme
import CallToAction.Number.Spelling
import CallToAction.Text.Layout
import CallToAction.Text.Quoted

/-!
# Facts as a JSON document

A document gives the facts as an object from names to numbers, or as an array of numbers in
document order that may stop early.  `null` leaves a fact without a value.  A name that is unknown,
or given twice, is refused whatever its value.

Reading is a fold over the lexemes of the text.  `Reading` is the state between two of them, and
the first lexeme that does not fit is the problem that is reported.

* `foldlM_member`: a member of an object is read as one entry, wherever it stands.
-/

namespace CallToAction

namespace Document

/-- A value where another kind of value must stand. -/
inductive Misfit
  | null
  | bool (value : Bool)
  | number (value : Json.Numeral)
  | text (value : String)
  | array
  | object
  deriving DecidableEq

/-- A text between backquotes. -/
def ticked (s : String) : String := "`" ++ s ++ "`"

/-- What a misfit is called in messages. -/
def Misfit.name : Misfit → String
  | null => "null"
  | bool b => "boolean " ++ ticked (if b then "true" else "false")
  | number (.int i) => "integer " ++ ticked i.repr
  | number (.float x) => "floating point " ++ ticked ((Number.json? x).getD "null")
  | text s => "string " ++ Text.quoted s
  | array => "sequence"
  | object => "map"

/-- Why a text is no JSON document of facts. -/
inductive JsonError
  | unknownFact (name : String)
  | duplicateFact (fact : Fact)
  /-- The value of a fact is neither a number nor null. -/
  | notNumber (found : Misfit)
  /-- The document is neither an object nor an array. -/
  | notSheet (found : Misfit)
  | fault (fault : Json.Fault)
  deriving DecidableEq

/-- The wording of a `JsonError`. -/
def JsonError.message : JsonError → String
  | unknownFact name =>
    "unknown field " ++ ticked name ++ ", expected one of "
      ++ Text.joinWith ", " (Fact.all.map fun fact => ticked fact.name)
  | duplicateFact fact => "duplicate field " ++ ticked fact.name
  | notNumber found => "invalid type: " ++ found.name ++ ", expected f64"
  | notSheet found => "invalid type: " ++ found.name ++ ", expected struct RawFacts"
  | fault f => f.message

/-- What a document is being read as. -/
inductive Container
  | object
  /-- The facts that further items of the array belong to. -/
  | array (facts : List Fact)
  deriving DecidableEq

/-- Where the reading of a document stands, and the entries read so far. -/
inductive Reading
  | start
  /-- Before a name; before the first one the object may end. -/
  | name (first : Bool) (entries : List Entry)
  | colon (fact : Fact) (entries : List Entry)
  | value (container : Container) (fact : Fact) (entries : List Entry)
  /-- At the very beginning of an array, which may be empty. -/
  | firstItem
  /-- After an entry. -/
  | between (container : Container) (entries : List Entry)
  | done (entries : List Entry)

namespace Reading

open Json (Lexeme)

/-- Anything but what must follow. -/
def unexpected : Except JsonError Reading := .error (.fault .malformed)

/-- The value that begins with a lexeme, where it does not fit. -/
def misfit (cause : Misfit → JsonError) : Lexeme → Except JsonError Reading
  | .null => .error (cause .null)
  | .bool b => .error (cause (.bool b))
  | .number n => .error (cause (.number n))
  | .text s => .error (cause (.text s))
  | .bracketOpen => .error (cause .array)
  | .braceOpen => .error (cause .object)
  | .brokenText f | .broken f => .error (.fault f)
  | _ => unexpected

/-- Read the name of a fact that has no entry yet. -/
def takeName (entries : List Entry) : Lexeme → Except JsonError Reading
  | .text s =>
    match Fact.named? s with
    | none => .error (.unknownFact s)
    | some fact =>
      if entries.any (·.1 = fact) then .error (.duplicateFact fact) else .ok (.colon fact entries)
  | .brokenText f => .error (.fault f)
  | _ => unexpected

/-- Read the value of a fact. -/
def takeValue (container : Container) (fact : Fact) (entries : List Entry) :
    Lexeme → Except JsonError Reading
  | .null => .ok (.between container (entries ++ [(fact, none)]))
  | .number n => .ok (.between container (entries ++ [(fact, some n.toFloat)]))
  | lexeme => misfit .notNumber lexeme

/-- Read the first item of an array, or its end. -/
def takeFirstItem (lexeme : Lexeme) : Except JsonError Reading :=
  match lexeme, Fact.all with
  | .bracketClose, _ | _, [] => .ok (.done [])
  | lexeme, fact :: facts => takeValue (.array facts) fact [] lexeme

/-- Read what stands between two entries, or after the last one. -/
def takeBetween (entries : List Entry) : Container → Lexeme → Except JsonError Reading
  | .object, .comma => .ok (.name false entries)
  | .object, .braceClose => .ok (.done entries)
  | .array (fact :: facts), .comma => .ok (.value (.array facts) fact entries)
  | .array _, .bracketClose => .ok (.done entries)
  | _, _ => unexpected

/-- Read a lexeme. -/
def step : Reading → Lexeme → Except JsonError Reading
  | start, .braceOpen => .ok (.name true [])
  | start, .bracketOpen => .ok .firstItem
  | start, lexeme => misfit .notSheet lexeme
  | name true entries, .braceClose => .ok (.done entries)
  | name _ entries, lexeme => takeName entries lexeme
  | colon fact entries, .colon => .ok (.value .object fact entries)
  | colon _ _, _ => unexpected
  | value container fact entries, lexeme => takeValue container fact entries lexeme
  | firstItem, lexeme => takeFirstItem lexeme
  | between container entries, lexeme => takeBetween entries container lexeme
  | done _, _ => unexpected

/-- The entries of a document that has been read to its end. -/
def finish : Reading → Except JsonError (List Entry)
  | done entries => .ok entries
  | _ => .error (.fault .unexpectedEnd)

theorem foldlM_member {entries : List Entry} {fact : Fact} {first : Bool} (v : Option Float)
    (lexeme : Lexeme) (fresh : ∀ entry ∈ entries, entry.1 ≠ fact)
    (given : lexeme = .null ∧ v = none ∨ ∃ n, lexeme = .number n ∧ v = some n.toFloat) :
    [.text fact.name, .colon, lexeme].foldlM step (name first entries)
      = .ok (between .object (entries ++ [(fact, v)])) := by
  have unseen : entries.any (·.1 = fact) = false := by simpa using fresh
  have named : step (name first entries) (.text fact.name) = .ok (.colon fact entries) := by
    cases first <;> simp [step, takeName, Fact.named?_name, unseen]
  rw [List.foldlM_cons, named]
  rcases given with ⟨rfl, rfl⟩ | ⟨n, rfl, rfl⟩ <;> rfl

end Reading

/-- The entries of a document. -/
def entries (lexemes : List Json.Lexeme) : Except JsonError (List Entry) :=
  lexemes.foldlM Reading.step .start >>= Reading.finish

end Document

/-- The sheet as an object of the facts with a value, in document order. -/
def FactSheet.toJson (s : FactSheet) : Json :=
  .object (s.present.map fun (fact, v) => (fact.name, .float v))

/-- Read the facts of a JSON document. -/
def FactSheet.ofJson (text : String) : Except Document.JsonError FactSheet :=
  (Document.entries (Json.Lexeme.scan text.toList)).map .ofEntries

end CallToAction
