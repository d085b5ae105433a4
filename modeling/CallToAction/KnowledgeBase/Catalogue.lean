import CallToAction.KnowledgeBase.Basic
import CallToAction.Json.Basic
import CallToAction.Text.Ink

/-!
# The catalogue of rules

A catalogue lists rules for their readers, each with its condition in words.  It is shown as a JSON
document or as a table with one row per rule.  The last column of the table, the condition, is cut
to the width of the terminal; without a terminal it is shown whole.
-/

namespace CallToAction

/-- A rule as it is listed. -/
structure RuleEntry where
  id : String
  priority : Int
  certainty : Float
  conclusion : String
  explanation : String
  category : Category
  /-- The condition in words. -/
  condition : String

/-- The rules as they are listed, and how many there are. -/
structure Catalogue where
  total : Nat
  entries : List RuleEntry

/-- The entry of a rule. -/
def Rule.entry (r : Rule) : RuleEntry where
  id := r.id
  priority := r.priority
  certainty := r.certainty
  conclusion := r.conclusion
  explanation := r.explanation
  category := r.category
  condition := r.condition.text

/-- The catalogue of a knowledge base. -/
def KnowledgeBase.catalogue (kb : KnowledgeBase) : Catalogue :=
  ⟨kb.rules.length, kb.rules.map Rule.entry⟩

/-- An entry as an object. -/
def RuleEntry.toJson (e : RuleEntry) : Json :=
  .object
    [("id", .string e.id), ("priority", .int e.priority), ("certainty", .float e.certainty),
      ("conclusion", .string e.conclusion), ("explanation", .string e.explanation),
      ("category", .string e.category.text), ("condition", .string e.condition)]

namespace Catalogue

/-- The catalogue as a document. -/
def toJson (c : Catalogue) : Json :=
  .object [("total_rules", .int c.total), ("rules", .array (c.entries.map RuleEntry.toJson))]

/-- The columns before the condition, with the blanks that separate them. -/
def fixedWidth : Nat := 4 + 1 + 4 + 2 + 4 + 2 + 12 + 2

/-- The width of the last column; a narrow terminal gets twenty characters all the same. -/
def conditionWidth (columns : Nat) : Nat :=
  if fixedWidth + 10 < columns then columns - fixedWidth else 20

/-- The text in the last column. -/
def conditionColumn (columns : Option Nat) (e : RuleEntry) : String :=
  match columns with
  | some n => Text.fit (conditionWidth n) e.condition
  | none => e.condition

/-- The color of a category. -/
def categoryInk : Category → Ink
  | .visibility => .cyan
  | .clickability => .magenta

/-- The row of an entry.  What is written with colors and what is written without them are two
texts, composed apart. -/
def row (columns : Option Nat) (colors : Bool) (e : RuleEntry) : String :=
  let id := Text.padRight 4 e.id
  let category := Text.padRight 12 e.category.text
  let condition := conditionColumn columns e
  if colors then
    Ink.bold.dress id ++ " " ++ Text.padLeft 4 (Int.repr e.priority) ++ "  "
      ++ Number.fixed 2 e.certainty ++ "  " ++ (categoryInk e.category).dress category ++ "  "
      ++ condition
  else
    id ++ " " ++ Text.padLeft 4 (Int.repr e.priority) ++ "  "
      ++ Number.fixed 2 e.certainty ++ "  " ++ category ++ "  " ++ condition

/-- The catalogue as a table with the number of rules below it. -/
def table (columns : Option Nat) (colors : Bool) (c : Catalogue) : String :=
  if c.entries.isEmpty then "No rules loaded."
  else Text.lines (c.entries.map (row columns colors) ++ [s!"{Nat.repr c.total} rules"])

end Catalogue

/-- The rules as a document. -/
def KnowledgeBase.toJson (kb : KnowledgeBase) : Json := kb.catalogue.toJson

/-- The rules as a table. -/
def KnowledgeBase.table (columns : Option Nat) (colors : Bool) (kb : KnowledgeBase) : String :=
  kb.catalogue.table columns colors

end CallToAction
