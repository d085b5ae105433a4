import CallToAction.Document.Json
import CallToAction.Document.Yaml
import CallToAction.ErrorChain
import CallToAction.FileTree.Path

/-!
# Fact documents

A fact document is written in one of two formats.  The format of a file is told by its name, and
that of other text by its first character.

What a parser says about a text that it refuses is told as the causes of the error.  Its words are
its own: they are taken from a `Document.Wording`, of which there is a plain one.
-/

namespace CallToAction

namespace Document

/-- The format of a fact document. -/
inductive Format
  | yaml
  | json
  deriving DecidableEq, Repr

/-- The format of a file with this path: JSON if its name ends in `.json`, in letters of any
case. -/
def Format.ofPath (path : String) : Format :=
  match Path.suffix? path with
  | some suffix => if suffix.toList.map Char.toLower = "json".toList then .json else .yaml
  | none => .yaml

/-- The format of a text without a name: JSON if it begins with a brace. -/
def Format.ofText (text : String) : Format :=
  match Text.trimLeft text.toList with
  | '\x7b' :: _ => .json
  | _ => .yaml

/-- Why a text is no fact document. -/
inductive Error
  | json (cause : JsonError)
  | yaml
  deriving DecidableEq

/-- What the parsers of documents say about a text that they refuse: a cause, and the causes behind
it. -/
class Wording where
  /-- About a text that is no JSON document of facts, because of this cause. -/
  json : String → JsonError → List String
  /-- About a text that is no YAML document of facts. -/
  yaml : String → List String

/-- The cause without its place in the text, as far as it is known. -/
instance Wording.plain : Wording := ⟨fun _ cause => [cause.message], fun _ => []⟩

/-- An error about a text, with the words of the parser. -/
def Error.chain (w : Wording) (text : String) : Error → ErrorChain
  | json cause => ⟨"Invalid JSON fact document", w.json text cause⟩
  | yaml => ⟨"Invalid YAML fact document", w.yaml text⟩

/-- An error in plain words. -/
def Error.message (e : Error) : String := (e.chain .plain "").message

end Document

/-- Read a fact document. -/
def FactSheet.ofDocument (format : Document.Format) (text : String) :
    Except Document.Error FactSheet :=
  match format with
  | .json =>
    match ofJson text with
    | .ok facts => .ok facts
    | .error cause => .error (.json cause)
  | .yaml =>
    match ofYaml? text with
    | some facts => .ok facts
    | none => .error .yaml

/-- Read a fact document, or tell in words why it is none. -/
def FactSheet.parse (w : Document.Wording) (format : Document.Format) (text : String) :
    Except ErrorChain FactSheet :=
  match ofDocument format text with
  | .ok facts => .ok facts
  | .error e => .error (e.chain w text)

/-- The words do not decide what can be read. -/
theorem FactSheet.parse_eq_ok_iff {w : Document.Wording} {format : Document.Format} {text : String}
    {facts : FactSheet} : parse w format text = .ok facts ↔ ofDocument format text = .ok facts := by
  unfold parse
  cases ofDocument format text <;> simp

end CallToAction
