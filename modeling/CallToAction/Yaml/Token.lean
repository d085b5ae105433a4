import CallToAction.Yaml.Tag

/-!
# Tokens

A text is a sequence of tokens.  Where a block collection begins and ends, which the text says by
its indentation, stand tokens of their own.
-/

namespace CallToAction.Yaml

/-- How a scalar is written. -/
inductive Style
  | plain
  | quoted
  /-- As lines of its own below a sign. -/
  | block
  deriving DecidableEq, Repr

/-- The kinds of collections that stand over lines. -/
inductive Block
  | mapping
  | sequence
  deriving DecidableEq, Repr

/-- The kinds of collections that stand between brackets. -/
inductive Flow
  | mapping
  | sequence
  deriving DecidableEq, Repr

/-- A token. -/
inductive Token
  | scalar (style : Style) (text : String)
  /-- The name of the node behind it. -/
  | anchor (name : String)
  /-- A node that stands elsewhere. -/
  | reference (name : String)
  | tag (tag : Tag)
  /-- The mark of a key. -/
  | key
  /-- The mark of a value. -/
  | value
  | blockStart (kind : Block)
  | blockEnd
  /-- The mark of an element of a block sequence. -/
  | element
  | flowStart (kind : Flow)
  | flowEnd (kind : Flow)
  /-- The comma behind an entry of a flow collection. -/
  | comma
  | directive (directive : Directive)
  | documentStart
  | documentEnd
  /-- The end of the text. -/
  | finish
  deriving DecidableEq, Repr

end CallToAction.Yaml
