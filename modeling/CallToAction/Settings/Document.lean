import CallToAction.Document.Yaml
import CallToAction.Settings.Basic
import CallToAction.Text.Hexadecimal

/-!
# Settings as a YAML document

A document of settings is a mapping with a section `output` and a section `defaults`.  A section or
setting that is null, or left out, is not set.  Unknown and repeated names are refused.
-/

namespace CallToAction

namespace Yaml

/-- The whole number spelled by digits of a radix; underscores between them are of no account. -/
def ofDigits? (radix : Nat) (cs : List Char) : Option Nat := do
  let digits := cs.filter (· != '_')
  guard (digits ≠ [])
  digits.foldlM (fun n c => do
    let d ← Text.hexDigit? c
    guard (d < radix)
    pure (radix * n + d)) 0

/-- The whole number of 64 bits that a scalar spells, up to surrounding white space. -/
def count? (s : String) : Option Nat := do
  let cs := (Text.trim s).toList
  let cs := if cs.head? = some '+' then cs.tail else cs
  let n ←
    match cs with
    | '0' :: 'x' :: digits | '0' :: 'X' :: digits => ofDigits? 16 digits
    | '0' :: 'o' :: digits | '0' :: 'O' :: digits => ofDigits? 8 digits
    | '0' :: 'b' :: digits | '0' :: 'B' :: digits => ofDigits? 2 digits
    | digits => ofDigits? 10 digits
  guard (n < UInt64.size)
  pure n

/-- What a node says about a choice that may be absent, or nothing if it is no such thing.  If its
tag speaks of a kind of values, it has to be this one.  The chosen name may also be the only key of
a mapping, without a value. -/
def Node.choice? {α : Type} (kind : String) (read : String → Option α) (node : Node) :
    Option (Option α) :=
  match node with
  | mapping [(key, value)] => if value.isNull then (key.text? >>= read).map some else none
  | _ =>
    if node.isUnset then some none
    else if node.kind?.all (· == kind) then node.optional? read
    else none

end Yaml

/-- The settings of a section about results. -/
def OutputSettings.ofMapping? (members : List (String × Yaml.Node)) : Option OutputSettings := do
  guard (members.map Prod.fst).Nodup
  members.foldlM (fun s (name, node) =>
    match name with
    | "format" => do pure { s with format := ← node.choice? "OutputFormat" OutputFormat.named? }
    | "color" => do pure { s with color := ← node.choice? "ColorMode" ColorMode.named? }
    | "recommendations" => do pure { s with recommendations := ← node.optional? Yaml.count? }
    | _ => none) .unset

namespace Settings

/-- The settings of a section about results, which may be null. -/
def output? : Yaml.Node → Option OutputSettings
  | .mapping entries => Yaml.Node.members? entries >>= OutputSettings.ofMapping?
  | node => if node.isNull then some .unset else none

/-- The facts of a section of defaults, which may be null. -/
def defaults? : Yaml.Node → Option (Option FactSheet)
  | .mapping entries => (Yaml.Node.members? entries >>= FactSheet.ofMapping?).map some
  | node => if node.isUnset then some none else none

/-- The settings that a mapping gives. -/
def ofMapping? (members : List (String × Yaml.Node)) : Option Settings := do
  guard (members.map Prod.fst).Nodup
  members.foldlM (fun s (name, node) =>
    match name with
    | "output" => do pure { s with output := ← output? node }
    | "defaults" => do pure { s with defaults := ← defaults? node }
    | _ => none) .unset

/-- The settings that a node gives. -/
def ofNode? : Yaml.Node → Option Settings
  | .mapping entries => Yaml.Node.members? entries >>= ofMapping?
  | node => if node.isNull then some unset else none

/-- Read a document of settings. -/
def ofYaml? (text : String) : Option Settings :=
  if Text.allBlank text then some unset else Yaml.read? text >>= ofNode?

end Settings

end CallToAction
