import CallToAction.Yaml.Cursor

/-!
# Block scalars

A block scalar takes the lines below its sign as they are, less their indentation.  A header behind
the sign may say how deep the lines are indented and what becomes of the line breaks at their end.
In a folded scalar the line breaks between two lines that do not begin with a blank are folded.
-/

namespace CallToAction.Yaml

/-! ### The header -/

/-- What becomes of the line breaks at the end of a block scalar. -/
inductive Chomping
  | strip
  | clip
  | keep
  deriving DecidableEq, Repr

/-- The chomping that a sign asks for. -/
def chomping? : Char → Option Chomping
  | '-' => some .strip
  | '+' => some .keep
  | _ => none

/-- The indentation that a digit asks for. -/
def indentation? (c : Char) : Option Nat :=
  if c.isDigit && c != '0' then some (c.toNat - '0'.toNat) else none

/-- The chomping and the indentation that the marks of a header ask for, which stand in either
order. -/
def header? : List Char → Option (Chomping × Option Nat)
  | [] => some (.clip, none)
  | [c] => (chomping? c).map (·, none) <|> (indentation? c).map (.clip, some ·)
  | [c, d] =>
    (do pure (← chomping? c, some (← indentation? d)))
      <|> (do pure (← chomping? d, some (← indentation? c)))
  | _ => none

/-! ### The lines -/

/-- Line breaks in front of a line, and the blanks that indent it. -/
structure Indentation where
  /-- How many line breaks there are. -/
  breaks : Nat := 0
  /-- The widest indentation of a line. -/
  widest : Nat := 0

/-- Pass over empty lines and the spaces in front of the next line, up to a column if one is
given. -/
def pastIndentation (limit : Option Nat) : Indentation → Place → List Char → Indentation × Cursor
  | i, p, [] => ({ i with widest := if i.widest < p.column then p.column else i.widest }, ⟨p, []⟩)
  | i, p, c :: cs =>
    if c = ' ' && limit.all (p.column < ·) then pastIndentation limit i (p.after c) cs
    else
      let i := { i with widest := if i.widest < p.column then p.column else i.widest }
      if c = '\n' then pastIndentation limit { i with breaks := i.breaks + 1 } (p.after c) cs
      else (i, ⟨p, c :: cs⟩)

/-- The empty lines and the indentation that begin at a cursor. -/
def Cursor.indentation (limit : Option Nat) (s : Cursor) : Indentation × Cursor :=
  pastIndentation limit {} s.place s.rest

/-- Whether a text begins with a blank. -/
def atBlank : List Char → Bool
  | [] => false
  | c :: _ => isBlank c

/-- What stands before a line of a block scalar. -/
structure LineStart where
  /-- Whether a line stands before it. -/
  later : Bool := false
  /-- How many empty lines stand before it. -/
  breaks : Nat := 0
  /-- Whether the line before it begins with a blank. -/
  blank : Bool := false

/-- The line breaks in front of a line of a folded or unfolded scalar. -/
def LineStart.text (folded : Bool) (start : LineStart) (cs : List Char) : List Char :=
  if folded && start.later && !start.blank && !atBlank cs then
    if start.breaks = 0 then [' '] else List.replicate start.breaks '\n'
  else List.replicate (if start.later then start.breaks + 1 else start.breaks) '\n'

/-- The lines of a block scalar from a cursor on, what stands behind them, and the cursor there. -/
def blockLines (folded : Bool) (indent : Nat) :
    Nat → LineStart → Cursor → List Char × LineStart × Cursor
  | 0, start, s => ([], start, s)
  | steps + 1, start, s =>
    if s.column ≠ indent || s.rest.isEmpty || (indent == 0 && isRule '.' s.rest) then
      ([], start, s)
    else
      let (line, t) := s.take (· != '\n')
      let text := start.text folded s.rest ++ line
      if t.rest.isEmpty then (text, {}, t)
      else
        let (empty, t) := t.next.indentation (some indent)
        let (lines, last, t) := blockLines folded indent steps ⟨true, empty.breaks, atBlank line⟩ t
        (text ++ lines, last, t)

/-- The line breaks at the end of a block scalar. -/
def Chomping.text (chomping : Chomping) (last : LineStart) (indent : Nat) (s : Cursor) :
    List Char :=
  let final := if s.rest.isEmpty && indent ≤ s.column && 0 < s.column then ['\n'] else []
  let clipped := if last.later then '\n' :: final else final
  match chomping with
  | .strip => []
  | .clip => clipped
  | .keep => clipped ++ List.replicate last.breaks '\n'

/-- The text of a block scalar without lines, behind the sign of which stand some empty lines. -/
def Chomping.emptyText (chomping : Chomping) (oneLine : Bool) (breaks : Nat) : List Char :=
  if chomping = .strip || oneLine then []
  else if chomping = .keep && 0 < breaks then List.replicate breaks '\n'
  else ['\n']

/-- The block scalar that begins at a cursor, and the cursor behind it.  Its lines stand deeper than
the margin allows, or as deep as its header says. -/
def Cursor.blockScalar? (folded : Bool) (margin : Nat) (s : Cursor) :
    Option (List Char × Cursor) := do
  let (marks, t) := s.next.take fun c => c == '+' || c == '-' || c.isDigit
  let (chomping, depth) ← header? marks
  let t ← t.restOfLine?
  let t := t.next
  if t.rest.head? = some '\t' then none
  else
    let indent := depth.map (margin - 1 + ·)
    let (empty, t) := t.indentation indent
    let indent := indent.getD (if empty.widest < margin then margin else empty.widest)
    if t.rest.isEmpty then
      pure (chomping.emptyText (t.place.line = s.place.line) empty.breaks, t)
    else if t.column < indent && margin ≤ t.column then none
    else
      let (text, last, t) :=
        blockLines folded indent (t.rest.length + 1) { breaks := empty.breaks } t
      pure (text ++ chomping.text last indent t, t)

end CallToAction.Yaml
