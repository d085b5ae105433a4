import CallToAction.Yaml.Outline
import CallToAction.Yaml.Cursor
import CallToAction.Yaml.Token

/-!
# Texts that are being read

A reading is a text that has been read up to a cursor, with the tokens read so far and what decides
about the next ones: the outline, and the token that turns out to begin a key if a colon follows.
-/

namespace CallToAction.Yaml

/-- A token that may begin a key. -/
structure Candidate where
  /-- The number of the tokens before it. -/
  number : Nat
  place : Place
  /-- Whether nothing but a key may stand there. -/
  required : Bool
  deriving DecidableEq, Repr

/-- Whether a colon comes too late to make a key of a token: on another line, or too far away. -/
def Candidate.isStale (k : Candidate) (p : Place) : Bool :=
  k.place.line < p.line || k.place.index + 1024 < p.index

/-- A text that has been read up to a cursor. -/
structure Reading where
  cursor : Cursor
  tokens : List Token := []
  outline : Outline := {}
  /-- The token that may begin a key in the innermost flow collection, or outside of any. -/
  key : Option Candidate := none
  /-- The same for the flow collections around, and at last outside of any. -/
  outerKeys : List (Option Candidate) := []
  /-- Whether the next token may begin a key. -/
  keyAllowed : Bool := true
  /-- The index of the place at which a colon may touch the text behind it. -/
  adjacent : Nat := 0
  deriving DecidableEq, Repr

namespace Reading

/-- Whether the cursor stands in a flow collection. -/
def inFlow (s : Reading) : Bool := !s.outerKeys.isEmpty

/-- The column of the cursor. -/
def column (s : Reading) : Nat := s.cursor.column

/-- Move the cursor. -/
def moveTo (cursor : Cursor) (s : Reading) : Reading := { s with cursor }

/-- Move over some characters. -/
def advance (n : Nat) (s : Reading) : Reading := s.moveTo (s.cursor.advance n)

/-- Read a token. -/
def emit (token : Token) (s : Reading) : Reading := { s with tokens := s.tokens ++ [token] }

/-- Put a token behind a number of earlier ones. -/
def insert (number : Nat) (token : Token) (s : Reading) : Reading :=
  { s with tokens := s.tokens.take number ++ token :: s.tokens.drop number }

/-- Say whether the next token may begin a key. -/
def allowKey (allowed : Bool) (s : Reading) : Reading := { s with keyAllowed := allowed }

/-! ### Keys -/

/-- The next token as one that may begin a key. -/
def candidate (s : Reading) : Candidate :=
  ⟨s.tokens.length, s.cursor.place,
    !s.inFlow && s.outline.margin == s.column + 1 && s.outline.inBlock⟩

/-- Note that the next token may begin a key, if it may. -/
def noteKey (s : Reading) : Reading :=
  if s.keyAllowed then { s with key := some s.candidate } else s

/-- Give up the token that may begin a key, unless it has to. -/
def dropKey? (s : Reading) : Option Reading :=
  if s.key.any (·.required) then none else some { s with key := none }

/-- Give up the token that may begin a key if a colon would come too late for it.  In flow
collections none comes too late. -/
def dropStaleKey? (s : Reading) : Option Reading :=
  if !s.inFlow && s.key.any (·.isStale s.cursor.place) then s.dropKey? else some s

/-- The tokens that are certain, though reading goes on no further: those before any token that may
begin a key. -/
def certain (s : Reading) : List Token :=
  let key := if s.inFlow then s.key else s.key.filter fun k => !k.isStale s.cursor.place
  (key :: s.outerKeys).foldl (fun tokens k => (k.map fun k => tokens.take k.number).getD tokens)
    s.tokens

/-! ### Blocks -/

/-- Begin a collection at a column, before the token with the given number, unless one has begun
there or the cursor stands in a flow collection. -/
def beginBlock (kind : Block) (column number : Nat) (s : Reading) : Reading :=
  if s.inFlow then s
  else
    let outline := s.outline.makeRoom column
    if outline.margin ≤ column then
      { s.insert number (.blockStart kind) with outline := outline.begin column }
    else { s with outline }

/-- Set a level apart, outside of flow collections. -/
def setApart (s : Reading) : Reading :=
  if s.inFlow then s else { s with outline := s.outline.setApart }

/-- Drop the levels that are only set apart. -/
def settle (s : Reading) : Reading := { s with outline := s.outline.settled }

/-- End the collections that are deeper than a margin, outside of flow collections. -/
def closeTo (margin : Nat) (s : Reading) : Reading :=
  if s.inFlow then s
  else
    let (outline, ended) := s.outline.closeTo margin
    { s with outline, tokens := s.tokens ++ List.replicate ended .blockEnd }

end Reading

end CallToAction.Yaml
