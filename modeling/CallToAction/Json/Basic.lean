import CallToAction.Number.Spelling
import CallToAction.Text.Layout

/-!
# JSON values and their text

A value is written compactly, on one line without blanks, or as indented text with two spaces per
level.  The members of an object keep their order.  A float that is not finite is written as
`null`, since documents have no number for it.
-/

namespace CallToAction

/-- A JSON value. -/
inductive Json
  | null
  | bool (value : Bool)
  | int (value : Int)
  | float (value : Float)
  | string (value : String)
  | array (items : List Json)
  | object (members : List (String × Json))

namespace Json

/-- The two hexadecimal digits of a character below U+0100. -/
def hexDigits (c : Char) : List Char :=
  [Nat.digitChar (c.toNat / 16), Nat.digitChar (c.toNat % 16)]

/-- A character inside a quoted text.  Quotes, backslashes and control characters are escaped. -/
def escapeChar (c : Char) : List Char :=
  if c = '"' then ['\\', '"']
  else if c = '\\' then ['\\', '\\']
  else if c = '\x08' then ['\\', 'b']
  else if c = '\x0c' then ['\\', 'f']
  else if c = '\n' then ['\\', 'n']
  else if c = '\r' then ['\\', 'r']
  else if c = '\t' then ['\\', 't']
  else if c < ' ' then ['\\', 'u', '0', '0'] ++ hexDigits c
  else [c]

/-- A text in quotes. -/
def quote (s : String) : String := .ofList ('"' :: s.toList.flatMap escapeChar ++ ['"'])

/-- How a value is laid out. -/
inductive Style
  | compact
  | indented
  deriving DecidableEq

/-- What stands before an item at a depth. -/
def Style.lineBreak : Style → Nat → String
  | .compact, _ => ""
  | .indented, depth => "\n" ++ Text.spaces (2 * depth)

/-- What stands between a name and its value. -/
def Style.colon : Style → String
  | .compact => ":"
  | .indented => ": "

/-- Items between brackets, each on a line of its own. -/
def Style.enclose (style : Style) (depth : Nat) (left right : String) : List String → String
  | [] => left ++ right
  | items =>
    left ++ style.lineBreak (depth + 1)
      ++ Text.joinWith ("," ++ style.lineBreak (depth + 1)) items
      ++ style.lineBreak depth ++ right

mutual

/-- The text of a value at a depth. -/
def write (style : Style) (depth : Nat) : Json → String
  | null => "null"
  | bool b => if b then "true" else "false"
  | int i => Int.repr i
  | float x => (Number.json? x).getD "null"
  | string s => quote s
  | array items => style.enclose depth "[" "]" (writeItems style (depth + 1) items)
  | object members => style.enclose depth "\x7b" "\x7d" (writeMembers style (depth + 1) members)

/-- The texts of the items of an array. -/
def writeItems (style : Style) (depth : Nat) : List Json → List String
  | [] => []
  | v :: rest => write style depth v :: writeItems style depth rest

/-- The texts of the members of an object. -/
def writeMembers (style : Style) (depth : Nat) : List (String × Json) → List String
  | [] => []
  | (name, v) :: rest =>
    (quote name ++ style.colon ++ write style depth v) :: writeMembers style depth rest

end

/-- A value on one line. -/
def compact (v : Json) : String := v.write .compact 0

/-- A value as indented text. -/
def indented (v : Json) : String := v.write .indented 0

end Json

end CallToAction
