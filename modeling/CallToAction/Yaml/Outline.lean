/-!
# The outline of a text

The block collections that are open at a place form the levels of an outline, and each level has a
margin: the least column of content in it.  Behind the mark of a key, of a value or of an element
may follow content deeper than the collection, for which a level is set apart before it is known
whether a collection begins there.
-/

namespace CallToAction.Yaml

/-- A level of an outline. -/
structure Level where
  /-- Whether a collection began with the level; if not, the level is only set apart. -/
  isBlock : Bool
  /-- The margin of the level around it. -/
  outer : Nat
  deriving DecidableEq, Repr

/-- The levels of a text at a place, the innermost first. -/
structure Outline where
  /-- The margin of the innermost level. -/
  margin : Nat := 0
  levels : List Level := []
  deriving DecidableEq, Repr

namespace Outline

/-- Whether the innermost level is that of a collection. -/
def inBlock (o : Outline) : Bool := o.levels.head?.any (·.isBlock)

/-- Drop the innermost levels that are only set apart. -/
def dropApart (margin : Nat) : List Level → Outline
  | [] => ⟨margin, []⟩
  | level :: levels =>
    if level.isBlock then ⟨margin, level :: levels⟩ else dropApart level.outer levels

/-- The outline without innermost levels that are only set apart. -/
def settled (o : Outline) : Outline := dropApart o.margin o.levels

/-- Set a level apart behind the mark of a collection. -/
def setApart (o : Outline) : Outline :=
  if o.inBlock then ⟨o.margin + 1, ⟨false, o.margin⟩ :: o.levels⟩ else o

/-- The outline in which a collection may begin at a column: a level that is only set apart makes
room for it. -/
def makeRoom (column : Nat) (o : Outline) : Outline :=
  match o.levels with
  | ⟨false, outer⟩ :: levels => if o.margin ≤ column + 1 then ⟨outer, levels⟩ else o
  | _ => o

/-- Begin a collection at a column. -/
def begin (column : Nat) (o : Outline) : Outline :=
  ⟨column + 1, ⟨true, o.margin⟩ :: o.levels⟩

/-- Leave levels until the margin is no deeper than the given one, and count the collections that
end. -/
def leave (least margin : Nat) : List Level → Outline × Nat
  | [] => (⟨margin, []⟩, 0)
  | level :: levels =>
    if margin ≤ least then (⟨margin, level :: levels⟩, 0)
    else
      let (o, ended) := leave least level.outer levels
      (o, if level.isBlock then ended + 1 else ended)

/-- The outline whose margin is no deeper than the given one, and the number of the collections that
end. -/
def closeTo (least : Nat) (o : Outline) : Outline × Nat := leave least o.margin o.levels

end Outline

end CallToAction.Yaml
