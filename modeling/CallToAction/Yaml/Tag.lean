import CallToAction.Text.Hexadecimal
import CallToAction.Yaml.Cursor

/-!
# Tags and directives

A tag before a node says what kind of thing it is.  It is an address in pointed brackets, or a
handle and the rest of an address that begins as the handle says.  A directive before a document
gives a handle its address.
-/

namespace CallToAction.Yaml

/-- A tag as written: a handle, which may be empty, and what follows it. -/
structure Tag where
  handle : String
  suffix : String
  deriving DecidableEq, Repr

/-- A directive. -/
inductive Directive
  /-- The version of the language. -/
  | version
  /-- The address that a handle stands for. -/
  | handle (name address : String)
  /-- Any other directive, which is of no account. -/
  | unknown
  deriving DecidableEq, Repr

/-! ### Addresses -/

/-- Whether a text begins with an escape of two hexadecimal digits. -/
def isEscape : List Char → Bool
  | '%' :: a :: b :: _ => (Text.hexDigit? a).isSome && (Text.hexDigit? b).isSome
  | _ => false

/-- Whether every percent sign of a text begins an escape. -/
def isEscaped : List Char → Bool
  | [] => true
  | c :: cs => (c != '%' || isEscape (c :: cs)) && isEscaped cs

/-- Take the part of an address that is made of a class of characters, with its escapes as they
are. -/
def Cursor.address? (inside : Char → Bool) (s : Cursor) : Option (List Char × Cursor) :=
  let (cs, s) := s.take inside
  if isEscaped cs then some (cs, s) else none

/-- Take the rest of a handle behind an exclamation mark, and say whether a second mark closes
it. -/
def Cursor.handle (s : Cursor) : List Char × Bool × Cursor :=
  let (name, s) := s.take isWordChar
  if s.rest.head? = some '!' then (name, true, s.next) else (name, false, s)

/-! ### Tags -/

/-- Take the tag off a text that begins with an exclamation mark. -/
def Cursor.shorthand? (s : Cursor) : Option (Tag × Cursor) := do
  let (name, closed, s) := s.next.handle
  let (suffix, s) ← s.address? isTagChar
  if closed then
    if suffix.isEmpty then none else pure (⟨.ofList ('!' :: name ++ ['!']), .ofList suffix⟩, s)
  else if (name ++ suffix).isEmpty then pure (⟨"", "!"⟩, s)
  else pure (⟨"!", .ofList (name ++ suffix)⟩, s)

/-- Take the tag off a text that begins with an exclamation mark and a pointed bracket. -/
def Cursor.verbatim? (s : Cursor) : Option (Tag × Cursor) := do
  let (address, s) ← (s.advance 2).address? isAddressChar
  if s.rest.head? = some '>' then pure (⟨"", .ofList address⟩, s.next) else none

/-- The tag at a cursor.  A blank or a line break follows it, or a mark of the flow collection in
which it stands. -/
def Cursor.tag? (flow : Bool) (s : Cursor) : Option (Tag × Cursor) := do
  let (tag, s) ← if s.next.rest.head? = some '<' then s.verbatim? else s.shorthand?
  if atGap s.rest || (flow && atFlowMark s.rest) then pure (tag, s) else none

/-! ### Directives -/

/-- Move over a number of at most nine digits. -/
def Cursor.pastNumber? (s : Cursor) : Option Cursor :=
  let (digits, s) := s.take Char.isDigit
  if digits.isEmpty || 9 < digits.length then none else some s

/-- Move over the two numbers of a version. -/
def Cursor.pastVersion? (s : Cursor) : Option Cursor := do
  let s ← s.pastBlanks.pastNumber?
  if s.rest.head? = some '.' then s.next.pastNumber? else none

/-- The rest of a directive that gives a handle its address. -/
def Cursor.handleDirective? (s : Cursor) : Option (Directive × Cursor) := do
  let s := s.pastBlanks
  if s.rest.head? ≠ some '!' then none
  else
    let (name, closed, s) := s.next.handle
    if !closed && !name.isEmpty then none
    else
      let s := s.pastBlanks
      if s.rest.head?.any fun c => c == '!' || isTagChar c then
        let (address, s) ← s.address? isAddressChar
        if atGap s.rest then
          let name := '!' :: name ++ if closed then ['!'] else []
          pure (.handle (.ofList name) (.ofList address), s)
        else none
      else none

/-- The directive at a cursor that stands before a percent sign, and the cursor at the end of its
line. -/
def Cursor.directive? (s : Cursor) : Option (Directive × Cursor) := do
  let (name, s) := s.next.take isWordChar
  if name.isEmpty || !atGap s.rest then none
  else
    let (directive, s) ←
      match String.ofList name with
      | "YAML" => do pure (.version, ← s.pastVersion?)
      | "TAG" => s.handleDirective?
      | _ => pure (.unknown, s.pastLine)
    pure (directive, ← s.restOfLine?)

end CallToAction.Yaml
