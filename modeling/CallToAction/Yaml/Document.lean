import CallToAction.Yaml.Lexeme
import CallToAction.Yaml.Tree

/-!
# YAML documents

A text holds one document.  It may begin with directives and the mark of its start, and end with the
mark of its end.  A second document is refused, but what is no document may follow the first one.

Line breaks of all kinds are alike, byte order marks at the very beginning are passed over, and the
text ends before a null character.  Where nothing is written the node of the document is absent.
-/

namespace CallToAction.Yaml

/-! ### Directives -/

/-- Take the directives off the front of a list of tokens. -/
def takeDirectives : List Token → List Directive × List Token
  | .directive directive :: rest =>
    let (directives, rest) := takeDirectives rest
    (directive :: directives, rest)
  | rest => ([], rest)

/-- The handle that a directive speaks of; unknown directives are taken for those of one handle. -/
def Directive.handle? : Directive → Option (String × String)
  | version => none
  | handle name address => some (name, address)
  | unknown => some ("", "")

/-- What handles stand for by some directives.  Neither a handle nor the version is given twice. -/
def handles? (directives : List Directive) : Option Handles :=
  let handles := directives.filterMap Directive.handle?
  if (handles.map Prod.fst).Nodup ∧ directives.count .version ≤ 1 then some handles else none

/-! ### Documents -/

/-- Whether a list of tokens begins with directives and the mark of the start of a document. -/
def startsDocument (tokens : List Token) : Bool :=
  let (directives, rest) := takeDirectives tokens
  (handles? directives).isSome && rest.head? = some .documentStart

/-- Whether no document follows a document, behind which these tokens stand.  Behind the mark of its
end any token begins one, but without it only directives and the mark of a start do. -/
def isLast : List Token → Bool
  | [] | .directive _ :: _ => false
  | .documentEnd :: rest =>
    match rest.dropWhile (· = .documentEnd) with
    | [] | .finish :: _ => true
    | .directive directive :: rest => !startsDocument (.directive directive :: rest)
    | _ => false
  | token :: _ => token ≠ .documentStart

/-- Take the node of a document off a list of tokens, behind the mark of its start. -/
def markedNode? (handles : Handles) : List Token → Option (Node × List Token)
  | [] => none
  | token :: rest =>
    match token with
    | .directive _ | .documentStart | .documentEnd | .finish => some (.absent, token :: rest)
    | _ => Node.ofTokens? handles (token :: rest)

/-- Take the node of the first document off a list of tokens. -/
def firstNode? (tokens : List Token) : Option (Node × List Token) := do
  let (directives, rest) := takeDirectives tokens
  let handles ← handles? directives
  match rest with
  | .documentStart :: rest => markedNode? handles rest
  | .finish :: _ => if directives.isEmpty then some (.absent, rest) else none
  | _ => if directives.isEmpty then Node.ofTokens? handles rest else none

/-- The node of the only document in a list of tokens. -/
def document? (tokens : List Token) : Option Node := do
  let (node, rest) ← firstNode? (tokens.dropWhile (· = .documentEnd))
  if isLast rest then some node else none

/-! ### Texts -/

/-- The text with each line break as a single line feed. -/
def unifyBreaks : List Char → List Char
  | [] => []
  | '\r' :: '\n' :: cs => '\n' :: unifyBreaks cs
  | c :: cs => (if c = '\r' then '\n' else c) :: unifyBreaks cs

/-- The text without a byte order mark. -/
def dropMark : List Char → List Char
  | [] => []
  | c :: cs => if c = '\ufeff' then cs else c :: cs

/-- The characters of a text that are read. -/
def readable (s : String) : List Char :=
  unifyBreaks ((dropMark (dropMark s.toList)).takeWhile (· != '\x00'))

/-- Read the only document of a text. -/
def read? (s : String) : Option Node := document? (tokens (readable s))

end CallToAction.Yaml
