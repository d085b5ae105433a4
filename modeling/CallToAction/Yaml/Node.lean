import CallToAction.Yaml.Token

/-!
# YAML nodes

A node is a scalar, a mapping or a sequence.  A scalar keeps its tag and how it is written, since
only some scalars say that there is no value.

A mapping may have merges among its entries: under the key `<<` stands another mapping, or a
sequence of them, whose entries belong to the mapping as well.  `Node.members?` is the list of all
entries.  An entry of the mapping itself goes before a merged one with the same key, and of two
merged ones the first that is listed counts, where later merges are listed before earlier ones.
-/

namespace CallToAction.Yaml

/-- A node of a document. -/
inductive Node
  /-- A scalar, with the full name of its tag. -/
  | scalar (tag : Option String) (style : Style) (text : String)
  | mapping (entries : List (Node × Node))
  | sequence (items : List Node)

/-- What standard tags begin with. -/
def standardTags : String := "tag:yaml.org,2002:"

/-- The tag of the absence of a value. -/
def nullTag : String := standardTags ++ "null"

/-- The names of the standard tags. -/
def standardKinds : List String :=
  ["binary", "bool", "float", "int", "map", "merge", "null", "omap", "pairs", "seq", "set", "str",
    "timestamp", "value", "yaml"]

/-- The name of a kind of values that a tag speaks of.  A standard tag speaks of none, and neither
does an address of another form. -/
def kindOfTag? (tag : String) : Option String :=
  let name := (tag.toList.drop (if standardTags.isPrefixOf tag then standardTags.length else 0))
  let kind := name.dropWhile (· == '!')
  if kind.isEmpty || kind.contains ':' || kind.contains '!' then none
  else if standardKinds.contains (.ofList kind) then none
  else some (.ofList kind)

/-- The letters of a text in lower case, as far as they are ASCII. -/
def lower (s : String) : String := .ofList (s.toList.map Char.toLower)

namespace Node

/-- A node of which nothing is written. -/
def absent : Node := scalar none .plain ""

/-- Whether a node says that there is nothing. -/
def isNull : Node → Bool
  | scalar tag style s =>
    tag = some nullTag || (style = .plain && (s = "" || s = "~" || lower s = "null"))
  | _ => false

/-- Whether a node says that there is no value.  An empty block scalar says so as well. -/
def isUnset : Node → Bool
  | scalar tag .block "" => (scalar tag .plain "").isNull
  | node => node.isNull

/-- The text of a scalar. -/
def text? : Node → Option String
  | scalar _ _ s => some s
  | _ => none

/-- The kind of values that the tag of a scalar speaks of. -/
def kind? : Node → Option String
  | scalar tag _ _ => tag >>= kindOfTag?
  | _ => none

/-! ### Merges -/

/-- Whether a node is the key of a merge. -/
def isMerge : Node → Bool
  | scalar _ .plain "<<" => true
  | _ => false

/-- The entries of a mapping that are no merges, by the texts of their keys. -/
def own? (entries : List (Node × Node)) : Option (List (String × Node)) :=
  (entries.filter fun (key, _) => !key.isMerge).mapM fun (key, value) => do
    pure (← key.text?, value)

mutual

/-- The entries that a node brings when it is merged into a mapping. -/
def merged? : Node → Option (List (String × Node))
  | scalar tag style s => if (scalar tag style s).isNull then some [] else none
  | mapping entries => do
    let own ← own? entries
    let inherited ← inherited? entries
    pure (own ++ inherited)
  | sequence items => mergedItems? items

/-- The entries that a sequence of nodes brings, those of the last node first. -/
def mergedItems? : List Node → Option (List (String × Node))
  | [] => some []
  | item :: items => do
    let first ← merged? item
    let later ← mergedItems? items
    pure (later ++ first)

/-- The entries that the merges of a mapping bring, those of the last merge first. -/
def inherited? : List (Node × Node) → Option (List (String × Node))
  | [] => some []
  | (key, value) :: entries => do
    let first ← if key.isMerge then merged? value else some []
    let later ← inherited? entries
    pure (later ++ first)

end

/-- Add the entries with keys that are new. -/
def addNew (members : List (String × Node)) : List (String × Node) → List (String × Node)
  | [] => members
  | (key, value) :: entries =>
    if (members.lookup key).isSome then addNew members entries
    else addNew (members ++ [(key, value)]) entries

/-- All entries of a mapping, by the texts of their keys.  No key is given twice in the mapping
itself. -/
def members? (entries : List (Node × Node)) : Option (List (String × Node)) := do
  let own ← own? entries
  let inherited ← inherited? entries
  if (own.map Prod.fst).Nodup then some (addNew own inherited) else none

end Node

end CallToAction.Yaml
