/-!
# Characters of YAML texts

The classes of characters that separate, structure and name things in a text, and the marks that
stand by themselves.  Every line break is a line feed.
-/

namespace CallToAction.Yaml

/-- A blank within a line. -/
def isBlank (c : Char) : Bool := c == ' ' || c == '\t'

/-- A blank or a line break. -/
def isGap (c : Char) : Bool := isBlank c || c == '\n'

/-- The characters that structure flow collections. -/
def isFlowMark (c : Char) : Bool := ",[]\x7b\x7d".toList.contains c

/-- A character of a handle. -/
def isWordChar (c : Char) : Bool := c.isAlphanum || c == '_' || c == '-'

/-- A character of an address. -/
def isAddressChar (c : Char) : Bool := isWordChar c || "#;/?:@&=+$,.!~*'()[]%".toList.contains c

/-- A character of the shorthand of a tag. -/
def isTagChar (c : Char) : Bool := isAddressChar c && !isFlowMark c && c != '!'

/-- A character of the name of an anchor. -/
def isNameChar (c : Char) : Bool := !isGap c && !isFlowMark c && c != '\ufeff'

/-- Whether a line ends before a text. -/
def atBreak : List Char → Bool
  | [] => true
  | c :: _ => c == '\n'

/-- Whether a text ends, or goes on with a blank or a line break. -/
def atGap : List Char → Bool
  | [] => true
  | c :: _ => isGap c

/-- Whether a text goes on with a mark of flow collections. -/
def atFlowMark : List Char → Bool
  | [] => false
  | c :: _ => isFlowMark c

/-- Whether a text begins with three of a character that stand by themselves. -/
def isRule (mark : Char) : List Char → Bool
  | a :: b :: c :: cs => a == mark && b == mark && c == mark && atGap cs
  | _ => false

/-- Whether a text begins with the mark of the start or the end of a document. -/
def atDocumentMark (cs : List Char) : Bool := isRule '-' cs || isRule '.' cs

end CallToAction.Yaml
