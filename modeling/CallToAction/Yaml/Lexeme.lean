import CallToAction.Yaml.BlockScalar
import CallToAction.Yaml.Plain
import CallToAction.Yaml.Quoted
import CallToAction.Yaml.Reading

/-!
# Reading tokens

`Reading.step?` reads the next token of a text, and `tokens` all of them.  If a text breaks the
rules somewhere, the tokens that are certain before that place are still read, without a token for
the end of the text.
-/

namespace CallToAction.Yaml

namespace Reading

/-! ### Gaps -/

/-- Move to the next token.  Outside of flow collections it may begin a key if it stands on a new
line. -/
def pastGap? (s : Reading) : Option Reading := do
  let (_, t) ← s.cursor.gap? true (s.outline.margin - 1)
  let newLine := !s.inFlow && s.cursor.place.line < t.place.line
  pure ((s.moveTo t).allowKey (s.keyAllowed || newLine))

/-- Move over blanks and a comment. -/
def pastComment? (s : Reading) : Option Reading := do pure (s.moveTo (← s.cursor.pastComment?))

/-! ### Flow collections -/

/-- Read the bracket that opens a flow collection. -/
def openFlow? (kind : Flow) (s : Reading) : Option Reading := do
  let s := s.noteKey.setApart
  let s := { s with key := none, outerKeys := s.key :: s.outerKeys, keyAllowed := true }
  pure ((← (s.advance 1).pastComment?).emit (.flowStart kind))

/-- Read the bracket that closes a flow collection. -/
def closeFlow? (kind : Flow) (s : Reading) : Option Reading :=
  match s.outerKeys with
  | [] => none
  | key :: outerKeys => do
    let s := { s with key, outerKeys, keyAllowed := false }
    let s ← (s.advance 1).pastComment?
    let s := if s.inFlow then { s with adjacent := s.cursor.place.index } else s
    pure (s.emit (.flowEnd kind))

/-- Read a comma. -/
def comma? (s : Reading) : Option Reading := do
  let s := (← s.dropKey?).allowKey true
  pure ((← (s.advance 1).pastComment?).emit .comma)

/-! ### Block collections -/

/-- Read the mark of an element, behind which the cursor stands together with the blanks and the
comment that follow it. -/
def emitElement? (s : Reading) : Option Reading := do
  let s :=
    if s.cursor.rest.head? = some '\n' || atFlowMark s.cursor.rest then s.setApart else s
  pure (((← s.dropKey?).allowKey true).emit .element)

/-- Read the mark of an element.  No tab stands between two of them. -/
def element? (s : Reading) : Option Reading := do
  if s.inFlow || !s.keyAllowed then none
  else
    let s := (s.beginBlock .sequence s.column s.tokens.length).advance 1
    let tabbed := (s.cursor.take isBlank).1.contains '\t'
    let s ← s.pastComment?
    match s.cursor.rest with
    | '-' :: cs => if tabbed && atGap cs then none else s.emitElement?
    | _ => s.emitElement?

/-- Pass over spaces, comments and line breaks behind the mark of a key. -/
def pastKeyGap (comment : Bool) (p : Place) : List Char → Cursor
  | [] => ⟨p, []⟩
  | c :: cs =>
    if c = '\n' then pastKeyGap false (p.after c) cs
    else if comment || c = '#' then pastKeyGap true (p.after c) cs
    else if c = ' ' then pastKeyGap false (p.after c) cs
    else ⟨p, c :: cs⟩

/-- Read the mark of a key, behind which a space or a line break stands, but no tab. -/
def keyMark? (s : Reading) : Option Reading := do
  if !s.inFlow && !s.keyAllowed then none
  else
    let t := (← (s.beginBlock .mapping s.column s.tokens.length).dropKey?).allowKey !s.inFlow
    let behind := s.cursor.next
    let next := pastKeyGap false behind.place behind.rest
    if next.place = behind.place || next.rest.head? = some '\t' then none
    else pure ((t.moveTo next).emit .key)

/-- Whether what follows a colon is set apart from it: a tab alone does not set a word apart. -/
def isApart (s : Cursor) : Bool :=
  let (blanks, t) := s.take isBlank
  blanks.head? != some '\t' || blanks.contains ' ' || !t.rest.head?.any isWordChar

/-- Read the mark of a value.  A token that may begin a key becomes one, and a mapping begins there
unless one has begun. -/
def valueMark? (s : Reading) : Option Reading :=
  let next := s.cursor.next
  if !isApart next then none
  else match s.key with
    | some k =>
      let t := (s.insert k.number .key).beginBlock .mapping k.place.column k.number
      some (({ t with key := none }.setApart.allowKey false).moveTo next |>.emit .value)
    | none =>
      if !s.inFlow && !s.keyAllowed then none
      else
        let t := s.beginBlock .mapping s.column s.tokens.length
        some ((t.setApart.allowKey !s.inFlow).moveTo next |>.emit .value)

/-! ### Nodes -/

/-- Read a token that begins a node. -/
def node? (read : Cursor → Option (Token × Cursor)) (s : Reading) : Option Reading := do
  let (token, cursor) ← read s.cursor
  pure (((s.noteKey.allowKey false).moveTo cursor).emit token)

/-- The name behind the mark of an anchor or an alias. -/
def name? (s : Cursor) : Option (String × Cursor) :=
  match s.next.take isNameChar with
  | ([], _) => none
  | (name, s) => some (.ofList name, s)

/-- Read an anchor. -/
def anchor? (s : Reading) : Option Reading :=
  s.node? fun c => (name? c).map fun (name, c) => (.anchor name, c)

/-- Read an alias. -/
def reference? (s : Reading) : Option Reading :=
  s.node? fun c => (name? c).map fun (name, c) => (.reference name, c)

/-- Read a tag. -/
def tag? (s : Reading) : Option Reading :=
  s.node? fun c => (c.tag? s.inFlow).map fun (tag, c) => (.tag tag, c)

/-- Read a plain scalar.  If it ends with its line, the next token may begin a key. -/
def plain? (s : Reading) : Option Reading := do
  let s := (s.noteKey.allowKey false).settle
  let (text, cursor) ← s.cursor.plain? s.inFlow s.outline.margin
  let s := (s.moveTo cursor).allowKey cursor.place.fresh
  pure (s.emit (.scalar .plain (.ofList text)))

/-- Read a quoted scalar, and the gap behind it.  A colon may touch it. -/
def quoted? (quote : Quote) (s : Reading) : Option Reading := do
  let s := s.noteKey.allowKey false
  let (text, cursor) ← s.cursor.quoted? quote s.inFlow s.outline.margin
  let s ← (s.moveTo cursor).pastGap?
  pure ({ s with adjacent := s.cursor.place.index }.emit (.scalar .quoted (.ofList text)))

/-- Read a block scalar. -/
def blockScalar? (folded : Bool) (s : Reading) : Option Reading := do
  let s := (s.noteKey.allowKey true).settle
  let (text, cursor) ← s.cursor.blockScalar? folded s.outline.margin
  pure ((s.moveTo cursor).emit (.scalar .block (.ofList text)))

/-! ### Documents -/

/-- Prepare for a token between documents: all collections end. -/
def endNodes? (s : Reading) : Option Reading := do pure ((← (s.closeTo 0).dropKey?).allowKey false)

/-- Read a directive. -/
def directive? (s : Reading) : Option Reading := do
  let s ← s.endNodes?
  let (directive, cursor) ← s.cursor.directive?
  pure ((s.moveTo cursor.next).emit (.directive directive))

/-- Read the mark of the start of a document. -/
def documentStart? (s : Reading) : Option Reading := do
  pure (((← s.endNodes?).advance 3).emit .documentStart)

/-- Read the mark of the end of a document, with which its line ends. -/
def documentEnd? (s : Reading) : Option Reading := do
  let s := (← s.endNodes?).advance 3
  pure ((s.moveTo (← s.cursor.restOfLine?)).emit .documentEnd)

/-- Read the end of the text. -/
def finish? (s : Reading) : Option Reading := do
  if s.inFlow then none else pure ((← s.endNodes?).emit .finish)

/-! ### Steps -/

/-- Read a colon that touches the text behind it, in a flow collection. -/
def tightValue? (s : Reading) (cs : List Char) : Option Reading :=
  if s.cursor.place.index ≠ s.adjacent && cs.head?.any "[\x7b".toList.contains then none
  else s.valueMark?

/-- Read the token that begins with a character, before the given text. -/
def token? (s : Reading) (c : Char) (cs : List Char) : Option Reading :=
  match c with
  | '[' => s.openFlow? .sequence
  | '\x7b' => s.openFlow? .mapping
  | ']' => s.closeFlow? .sequence
  | '\x7d' => s.closeFlow? .mapping
  | ',' => s.comma?
  | '-' => if atGap cs then s.element? else s.plain?
  | '?' => if atGap cs then s.keyMark? else s.plain?
  | ':' =>
    if atGap cs then s.valueMark?
    else if s.inFlow && (atFlowMark cs || s.cursor.place.index == s.adjacent) then s.tightValue? cs
    else s.plain?
  | '*' => s.reference?
  | '&' => s.anchor?
  | '!' => s.tag?
  | '|' => if s.inFlow then s.plain? else s.blockScalar? false
  | '>' => if s.inFlow then s.plain? else s.blockScalar? true
  | '\'' => s.quoted? .single
  | '"' => s.quoted? .double
  | '%' | '@' | '\x60' => none
  | _ => s.plain?

/-- Whether a token in a flow collection stands before the margin of the collections around it.
Brackets and commas may. -/
def isShallow (s : Reading) (c : Char) : Bool :=
  s.column + 1 < s.outline.margin && !(s.inFlow && "]\x7d,".toList.contains c)

/-- Read the next token. -/
def step? (s : Reading) : Option Reading := do
  let s ← s.pastGap?
  let s := (← s.dropStaleKey?).closeTo (s.column + 1)
  match s.cursor.rest with
  | [] => s.finish?
  | c :: cs =>
    if s.column = 0 && c = '%' then s.directive?
    else if s.column = 0 && isRule '-' (c :: cs) then s.documentStart?
    else if s.column = 0 && isRule '.' (c :: cs) then s.documentEnd?
    else if s.isShallow c then none
    else s.token? c cs

/-- Read tokens up to the end of the text, in at most so many steps. -/
def run : Nat → Reading → List Token
  | 0, s => s.certain
  | steps + 1, s =>
    match s.step? with
    | none => s.certain
    | some t => if t.tokens.getLast? = some .finish then t.tokens else run steps t

end Reading

/-- The tokens of a text. -/
def tokens (cs : List Char) : List Token := Reading.run (cs.length + 1) { cursor := .start cs }

end CallToAction.Yaml
