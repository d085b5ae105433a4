import CallToAction.Yaml.Node

/-!
# Nodes from tokens

`Node.ofTokens?` reads a node off the front of a list of tokens.  An entry of a mapping or an
element of a sequence of which nothing is written is an absent node.

A node may have an anchor, and an alias stands for the node that last carried its anchor.  An alias
within that node itself stands for nothing.
-/

namespace CallToAction.Yaml

/-- What handles stand for. -/
abbrev Handles := List (String × String)

/-- The full name of a tag.  A handle between two marks has to be known. -/
def Tag.name? (handles : Handles) (tag : Tag) : Option String :=
  match handles.lookup tag.handle with
  | some address => some (address ++ tag.suffix)
  | none =>
    if tag.handle = "!!" then some (standardTags ++ tag.suffix)
    else if tag.handle = "" || tag.handle = "!" then some (tag.handle ++ tag.suffix)
    else none

/-- The nodes that aliases stand for, the last anchor first.  A node that is being read is not there
yet. -/
abbrev Anchors := List (String × Option Node)

/-- Tokens that are left to be read, and the anchors before them. -/
structure Feed where
  tokens : List Token
  anchors : Anchors := []

/-- The properties of a node. -/
structure Properties where
  anchor : Option String := none
  tag : Option Tag := none

namespace Properties

/-- Take the properties of a node off a list of tokens: at most one anchor and one tag, in either
order. -/
def take : List Token → Properties × List Token
  | .anchor name :: .tag tag :: rest | .tag tag :: .anchor name :: rest => (⟨name, tag⟩, rest)
  | .anchor name :: rest => (⟨name, none⟩, rest)
  | .tag tag :: rest => (⟨none, tag⟩, rest)
  | rest => ({}, rest)

/-- Whether there are no properties. -/
def isEmpty (p : Properties) : Bool := p.anchor.isNone && p.tag.isNone

/-- The anchors behind the properties of a node. -/
def declare (p : Properties) (anchors : Anchors) : Anchors :=
  match p.anchor with
  | some name => (name, none) :: anchors
  | none => anchors

end Properties

/-- The anchors with a node that has now been read, before which there were so many of them. -/
def Anchors.complete (before : Nat) (p : Properties) (node : Node) (anchors : Anchors) : Anchors :=
  match p.anchor with
  | some name => anchors.set (anchors.length - 1 - before) (name, some node)
  | none => anchors

/-- Tokens before which nothing may be written where a node of a block mapping is expected. -/
def endsBlockEntry : Token → Bool
  | .key | .value | .blockEnd => true
  | _ => false

/-- The same for the elements of a block sequence. -/
def endsElement : Token → Bool
  | .element | .blockEnd => true
  | _ => false

/-- The same for the elements of a block sequence that is not indented. -/
def endsLooseElement (token : Token) : Bool := endsElement token || endsBlockEntry token

/-- The same for the entries of a flow collection. -/
def endsFlowEntry : Token → Bool
  | .value | .comma | .flowEnd _ => true
  | _ => false

/-- The tokens behind a comma, with which a list of tokens has to begin. -/
def afterComma? : List Token → Option (List Token)
  | .comma :: rest => some rest
  | _ => none

namespace Node

mutual

/-- Read a node.  A block collection stands only where blocks may, and a sequence that is not
indented only within a block mapping. -/
def read (handles : Handles) (block loose : Bool) (steps : Nat) (feed : Feed) :
    Option (Node × Feed) :=
  match steps with
  | 0 => none
  | steps + 1 =>
    match feed.tokens with
    | .reference name :: rest => do
      let node ← (feed.anchors.lookup name).join
      pure (node, { feed with tokens := rest })
    | tokens => do
      let (p, rest) := Properties.take tokens
      let tag ← p.tag.mapM (Tag.name? handles)
      let (node, next) ← content handles block loose p tag steps ⟨rest, p.declare feed.anchors⟩
      pure (node, { next with anchors := next.anchors.complete feed.anchors.length p node })
termination_by structural steps

/-- Read a node behind its properties. -/
def content (handles : Handles) (block loose : Bool) (p : Properties) (tag : Option String)
    (steps : Nat) (feed : Feed) : Option (Node × Feed) :=
  match steps with
  | 0 => none
  | steps + 1 =>
    match feed.tokens with
    | [] => none
    | .scalar style text :: rest =>
      let style := if p.anchor.isSome && text = "" then .plain else style
      some (scalar tag style text, { feed with tokens := rest })
    | .flowStart .mapping :: rest => do
      let (entries, feed) ← flowEntries handles true steps { feed with tokens := rest }
      pure (mapping entries, feed)
    | .flowStart .sequence :: rest => do
      let (items, feed) ← flowItems handles true steps { feed with tokens := rest }
      pure (sequence items, feed)
    | token :: rest =>
      if block && token = .blockStart .mapping then do
        let (entries, feed) ← blockEntries handles steps { feed with tokens := rest }
        pure (mapping entries, feed)
      else if block && token = .blockStart .sequence then do
        let (items, feed) ← elements handles false steps { feed with tokens := rest }
        pure (sequence items, feed)
      else if loose && token = .element then do
        let (items, feed) ← elements handles true steps feed
        pure (sequence items, feed)
      else if p.isEmpty then none
      else some (scalar tag .plain "", feed)
termination_by structural steps

/-- Read a node, or nothing before a token that ends an entry. -/
def readUnless (ends : Token → Bool) (handles : Handles) (block loose : Bool) (steps : Nat)
    (feed : Feed) : Option (Node × Feed) :=
  match steps with
  | 0 => none
  | steps + 1 =>
    if feed.tokens.head?.any ends then some (absent, feed)
    else read handles block loose steps feed
termination_by structural steps

/-- Read the value of an entry, if there is one. -/
def readValue (ends : Token → Bool) (handles : Handles) (block : Bool) (steps : Nat) (feed : Feed) :
    Option (Node × Feed) :=
  match steps with
  | 0 => none
  | steps + 1 =>
    match feed.tokens with
    | [] => none
    | .value :: rest => readUnless ends handles block block steps { feed with tokens := rest }
    | _ => some (absent, feed)
termination_by structural steps

/-- Read an entry behind the mark of its key or, if that is missing, of its value. -/
def readEntry (ends : Token → Bool) (handles : Handles) (block : Bool) (steps : Nat) (feed : Feed) :
    Option ((Node × Node) × Feed) :=
  match steps with
  | 0 => none
  | steps + 1 => do
    let (key, feed) ← readUnless ends handles block block steps feed
    let (value, feed) ← readValue ends handles block steps feed
    pure ((key, value), feed)
termination_by structural steps

/-- Read the entries of a block mapping. -/
def blockEntries (handles : Handles) (steps : Nat) (feed : Feed) :
    Option (List (Node × Node) × Feed) :=
  match steps with
  | 0 => none
  | steps + 1 =>
    match feed.tokens with
    | .blockEnd :: rest => some ([], { feed with tokens := rest })
    | .key :: rest => do
      let (entry, feed) ← readEntry endsBlockEntry handles true steps { feed with tokens := rest }
      let (entries, feed) ← blockEntries handles steps feed
      pure (entry :: entries, feed)
    | .value :: _ => do
      let (entry, feed) ← readEntry endsBlockEntry handles true steps feed
      let (entries, feed) ← blockEntries handles steps feed
      pure (entry :: entries, feed)
    | _ => none
termination_by structural steps

/-- Read the elements of a block sequence.  If it is not indented, it ends with its last
element. -/
def elements (handles : Handles) (loose : Bool) (steps : Nat) (feed : Feed) :
    Option (List Node × Feed) :=
  match steps with
  | 0 => none
  | steps + 1 =>
    match feed.tokens with
    | .element :: rest => do
      let ends := if loose then endsLooseElement else endsElement
      let (item, feed) ← readUnless ends handles true false steps { feed with tokens := rest }
      let (items, feed) ← elements handles loose steps feed
      pure (item :: items, feed)
    | .blockEnd :: rest => some ([], if loose then feed else { feed with tokens := rest })
    | [] => none
    | _ => if loose then some ([], feed) else none
termination_by structural steps

/-- Read the entries of a flow mapping.  Each but the first stands behind a comma. -/
def flowEntries (handles : Handles) (first : Bool) (steps : Nat) (feed : Feed) :
    Option (List (Node × Node) × Feed) :=
  match steps with
  | 0 => none
  | steps + 1 =>
    match feed.tokens with
    | .flowEnd .mapping :: rest => some ([], { feed with tokens := rest })
    | .comma :: .flowEnd .mapping :: rest =>
      if first then none else some ([], { feed with tokens := rest })
    | tokens => do
      let tokens ← if first then some tokens else afterComma? tokens
      let (entry, feed) ← flowEntry handles steps { feed with tokens }
      let (entries, feed) ← flowEntries handles false steps feed
      pure (entry :: entries, feed)
termination_by structural steps

/-- Read an entry of a flow mapping.  Without any mark it is a key. -/
def flowEntry (handles : Handles) (steps : Nat) (feed : Feed) : Option ((Node × Node) × Feed) :=
  match steps with
  | 0 => none
  | steps + 1 =>
    match feed.tokens with
    | .key :: rest => readEntry endsFlowEntry handles false steps { feed with tokens := rest }
    | .value :: _ => readEntry endsFlowEntry handles false steps feed
    | _ => do
      let (key, feed) ← read handles false false steps feed
      pure ((key, absent), feed)
termination_by structural steps

/-- Read the elements of a flow sequence.  Each but the first stands behind a comma. -/
def flowItems (handles : Handles) (first : Bool) (steps : Nat) (feed : Feed) :
    Option (List Node × Feed) :=
  match steps with
  | 0 => none
  | steps + 1 =>
    match feed.tokens with
    | .flowEnd .sequence :: rest => some ([], { feed with tokens := rest })
    | .comma :: .flowEnd .sequence :: rest =>
      if first then none else some ([], { feed with tokens := rest })
    | tokens => do
      let tokens ← if first then some tokens else afterComma? tokens
      let (item, feed) ← flowItem handles steps { feed with tokens }
      let (items, feed) ← flowItems handles false steps feed
      pure (item :: items, feed)
termination_by structural steps

/-- Read an element of a flow sequence.  The mark of a key or of a value makes it a mapping with one
entry. -/
def flowItem (handles : Handles) (steps : Nat) (feed : Feed) : Option (Node × Feed) :=
  match steps with
  | 0 => none
  | steps + 1 =>
    match feed.tokens with
    | .key :: _ | .value :: _ => do
      let (entry, feed) ← flowEntry handles steps feed
      pure (mapping [entry], feed)
    | _ => read handles false false steps feed
termination_by structural steps

end

/-- Read a node off a list of tokens, where blocks may stand.  It takes less than eight steps from a
token to the next. -/
def ofTokens? (handles : Handles) (tokens : List Token) : Option (Node × List Token) := do
  let (node, feed) ← read handles true false (8 * (tokens.length + 1)) { tokens }
  pure (node, feed.tokens)

end Node

end CallToAction.Yaml
