import CallToAction.Document.Entry
import CallToAction.Number.Literal
import CallToAction.Yaml.Document

/-!
# Facts as a YAML document

A document gives the facts as a mapping from names to numbers, and is empty where nothing is known.
A null leaves a fact without a value.  A name that is unknown, or given twice, is refused whatever
its value.
-/

namespace CallToAction

namespace Yaml

/-- The special numbers of documents: infinity, and no number. -/
def specialNumber? (s : String) : Option Float :=
  let (negative, cs) := Literal.sign s.toList
  let name := lower (.ofList cs)
  if name = ".inf" then some (Binary64.infinite negative)
  else if name = ".nan" then some Literal.nan.toFloat
  else none

/-- The number that a scalar spells, up to surrounding white space. -/
def number? (s : String) : Option Float :=
  let s := Text.trim s
  specialNumber? s <|> (Number.read s).toOption

/-- What a node says about a quantity that may be absent, or nothing if it is no such thing. -/
def Node.optional? {α : Type} (read : String → Option α) (node : Node) : Option (Option α) :=
  if node.isUnset then some none else (node.text? >>= read).map some

end Yaml

namespace FactSheet

/-- The entry of a fact. -/
def entry? (name : String) (node : Yaml.Node) : Option Document.Entry := do
  pure (← Fact.named? name, ← node.optional? Yaml.number?)

/-- The sheet that a mapping gives. -/
def ofMapping? (members : List (String × Yaml.Node)) : Option FactSheet := do
  let entries ← members.mapM fun (name, node) => entry? name node
  guard (entries.map Prod.fst).Nodup
  pure (ofEntries entries)

/-- The sheet that a node gives. -/
def ofNode? : Yaml.Node → Option FactSheet
  | .mapping entries => Yaml.Node.members? entries >>= ofMapping?
  | node => if node.isNull then some empty else none

/-- Read the facts of a YAML document. -/
def ofYaml? (text : String) : Option FactSheet :=
  if Text.allBlank text then some empty else Yaml.read? text >>= ofNode?

end FactSheet

end CallToAction
