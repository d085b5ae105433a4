import CallToAction.Yaml.Cursor

/-!
# Gaps

Between two words of a scalar, and between two tokens, stands a gap of blanks and line breaks.
Within a scalar a gap is folded: a line break stands for a space, and each further one for a line
break.

The margin of a place is the least column of content there.  A tab may stand before the margin of a
line only if the line holds nothing but blanks and a comment.
-/

namespace CallToAction.Yaml

/-- A gap between two words of a scalar. -/
inductive Gap
  /-- Blanks within a line. -/
  | blanks (cs : List Char)
  /-- A line break, and some more of them. -/
  | broken (more : Nat)
  /-- A line break that is of no account, and some more of them. -/
  | joined (more : Nat)
  deriving DecidableEq, Repr

namespace Gap

/-- The gap with one more blank.  Blanks next to a line break are of no account. -/
def addBlank (c : Char) : Gap → Gap
  | blanks cs => blanks (cs ++ [c])
  | gap => gap

/-- The gap with one more line break. -/
def addBreak : Gap → Gap
  | blanks _ => broken 0
  | broken n => broken (n + 1)
  | joined n => joined (n + 1)

/-- Whether a line ends within the gap. -/
def isBroken : Gap → Bool
  | blanks _ => false
  | _ => true

/-- The characters that the gap stands for. -/
def text : Gap → List Char
  | blanks cs => cs
  | broken 0 => [' ']
  | broken n => List.replicate n '\n'
  | joined n => List.replicate n '\n'

end Gap

/-- What the rest of a line in a gap may hold. -/
inductive Stretch
  /-- Anything. -/
  | free
  /-- Nothing but blanks and a comment, as a tab stands before the margin. -/
  | tabbed
  /-- A comment. -/
  | comment
  deriving DecidableEq, Repr

/-- Pass over a gap, in which comments are passed over as well if this is asked for. -/
def pastGap? (comments : Bool) (margin : Nat) :
    Stretch → Gap → Place → List Char → Option (Gap × Cursor)
  | _, gap, p, [] => some (gap, ⟨p, []⟩)
  | stretch, gap, p, c :: cs =>
    if c = '\n' then pastGap? comments margin .free gap.addBreak (p.after c) cs
    else match stretch with
      | .comment => pastGap? comments margin .comment gap (p.after c) cs
      | .tabbed =>
        if isBlank c then pastGap? comments margin .tabbed gap (p.after c) cs
        else if c = '#' then pastGap? comments margin .comment gap (p.after c) cs
        else none
      | .free =>
        if c = '\t' && p.fresh && p.column < margin then
          pastGap? comments margin .tabbed gap (p.after c) cs
        else if isBlank c then pastGap? comments margin .free (gap.addBlank c) (p.after c) cs
        else if c = '#' && comments then pastGap? comments margin .comment gap (p.after c) cs
        else some (gap, ⟨p, c :: cs⟩)

/-- The gap that begins at a cursor. -/
def Cursor.gap? (comments : Bool) (margin : Nat) (s : Cursor) : Option (Gap × Cursor) :=
  Yaml.pastGap? comments margin .free (.blanks []) s.place s.rest

end CallToAction.Yaml
