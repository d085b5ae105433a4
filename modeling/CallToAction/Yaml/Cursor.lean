import CallToAction.Yaml.Character

/-!
# Places in a text

A cursor is a place in a text together with the rest of the text from there on.  It moves forward
over characters, and its place keeps account of lines and columns.
-/

namespace CallToAction.Yaml

/-- A place in a text. -/
structure Place where
  /-- How many characters stand before it. -/
  index : Nat := 0
  /-- How many line breaks stand before it. -/
  line : Nat := 0
  /-- How many characters stand before it on its line. -/
  column : Nat := 0
  /-- Whether only blanks stand before it on its line. -/
  fresh : Bool := true
  deriving DecidableEq, Repr

/-- The place behind a character. -/
def Place.after (c : Char) (p : Place) : Place :=
  if c = '\n' then ⟨p.index + 1, p.line + 1, 0, true⟩
  else ⟨p.index + 1, p.line, p.column + 1, p.fresh && isBlank c⟩

/-- A place in a text, and the text from there on. -/
structure Cursor where
  place : Place
  rest : List Char
  deriving DecidableEq, Repr

namespace Cursor

/-- The beginning of a text. -/
def start (cs : List Char) : Cursor := ⟨{}, cs⟩

/-- The column of a cursor. -/
def column (s : Cursor) : Nat := s.place.column

/-- Move over some characters. -/
def advance : Nat → Cursor → Cursor
  | n + 1, ⟨p, c :: cs⟩ => advance n ⟨p.after c, cs⟩
  | _, s => s

/-- Move over a character. -/
def next (s : Cursor) : Cursor := s.advance 1

end Cursor

/-- The characters of a text before the first one that ends a run, and a cursor behind them.  What
ends a run may depend on the text after it. -/
def span (ends : Char → List Char → Bool) (p : Place) : List Char → List Char × Cursor
  | [] => ([], ⟨p, []⟩)
  | c :: cs =>
    if ends c cs then ([], ⟨p, c :: cs⟩)
    else
      let (run, s) := span ends (p.after c) cs
      (c :: run, s)

namespace Cursor

/-- The characters before the first one that ends a run, and the cursor behind them. -/
def span (ends : Char → List Char → Bool) (s : Cursor) : List Char × Cursor :=
  Yaml.span ends s.place s.rest

/-- Take the characters of a class. -/
def take (inside : Char → Bool) (s : Cursor) : List Char × Cursor := s.span fun c _ => !inside c

/-- Move over blanks. -/
def pastBlanks (s : Cursor) : Cursor := (s.take isBlank).2

/-- Move to the end of the line. -/
def pastLine (s : Cursor) : Cursor := (s.take (· != '\n')).2

/-- Move over blanks and, if at least one stands there, a comment.  A number sign that touches what
stands before it begins no comment and is out of place. -/
def pastComment? (s : Cursor) : Option Cursor :=
  let t := s.pastBlanks
  match t.rest with
  | '#' :: _ => if t.place = s.place then none else some t.pastLine
  | _ => some t

/-- Move to the end of a line on which only blanks and a comment are left. -/
def restOfLine? (s : Cursor) : Option Cursor := do
  let s ← s.pastComment?
  if atBreak s.rest then some s else none

end Cursor

end CallToAction.Yaml
