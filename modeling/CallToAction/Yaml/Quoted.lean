import CallToAction.Text.Hexadecimal
import CallToAction.Yaml.Gap

/-!
# Quoted scalars

In single quotes a quote is written twice and nothing else is special.  In double quotes a backslash
begins an escape, and a line break behind one is of no account.  Outside of flow collections each
later line is indented up to the margin, unless it begins with the closing quote.
-/

namespace CallToAction.Yaml

/-- The quotes around a scalar. -/
inductive Quote
  | single
  | double
  deriving DecidableEq, Repr

/-- The character of a quote. -/
def Quote.mark : Quote → Char
  | single => '\''
  | double => '"'

/-! ### Escapes -/

/-- The character that a letter after a backslash stands for. -/
def escaped? : Char → Option Char
  | '0' => some '\x00'
  | 'a' => some '\x07'
  | 'b' => some '\x08'
  | 't' | '\t' => some '\t'
  | 'n' => some '\n'
  | 'v' => some '\x0b'
  | 'f' => some '\x0c'
  | 'r' => some '\r'
  | 'e' => some '\x1b'
  | ' ' => some ' '
  | '"' => some '"'
  | '/' => some '/'
  | '\\' => some '\\'
  | 'N' => some '\u0085'
  | '_' => some '\u00a0'
  | 'L' => some '\u2028'
  | 'P' => some '\u2029'
  | _ => none

/-- How many hexadecimal digits follow a letter after a backslash. -/
def codeWidth? : Char → Option Nat
  | 'x' => some 2
  | 'u' => some 4
  | 'U' => some 8
  | _ => none

/-- The character with a code point spelled by this many hexadecimal digits. -/
def charOfHex? (width : Nat) (digits : List Char) : Option Char := do
  if digits.length < width then none
  else
    let n ← Text.hex? digits
    if n.isValidChar then some (.ofNat n) else none

/-- The character that an escape stands for, and the length of the escape after its backslash. -/
def escape? : List Char → Option (Char × Nat)
  | [] => none
  | c :: cs =>
    match escaped? c with
    | some d => some (d, 1)
    | none => do
      let width ← codeWidth? c
      pure (← charOfHex? width (cs.take width), width + 1)

/-! ### Reading -/

/-- Pass over a gap in quotes.  No tab stands among the blanks that indent a line up to its
margin. -/
def quotedGap? (margin : Nat) : Gap → Place → List Char → Option (Gap × Cursor)
  | gap, p, [] => some (gap, ⟨p, []⟩)
  | gap, p, c :: cs =>
    if c = '\n' then quotedGap? margin gap.addBreak (p.after c) cs
    else if isBlank c then
      if c = '\t' && gap.isBroken && p.column + 1 < margin then none
      else quotedGap? margin (gap.addBlank c) (p.after c) cs
    else some (gap, ⟨p, c :: cs⟩)

/-- Whether the text of a quoted scalar may go on at a cursor behind a gap. -/
def quotedGoesOn (quote : Quote) (flow : Bool) (margin : Nat) (gap : Gap) (s : Cursor) : Bool :=
  !(s.column == 0 && atDocumentMark s.rest)
    && (flow || !gap.isBroken || margin ≤ s.column || s.rest.head? == some quote.mark)

/-- The gap behind which the text of a quoted scalar goes on, and the cursor behind the gap. -/
def quotedGapWithin? (quote : Quote) (flow : Bool) (margin : Nat) (gap : Gap) (s : Cursor) :
    Option (Gap × Cursor) := do
  let (gap, s) ← quotedGap? margin gap s.place s.rest
  if quotedGoesOn quote flow margin gap s then some (gap, s) else none

/-- The characters of a quoted scalar from a cursor on, and the cursor behind the closing quote. -/
def quotedChars? (quote : Quote) (flow : Bool) (margin : Nat) :
    Nat → Cursor → Option (List Char × Cursor)
  | 0, _ => none
  | steps + 1, s =>
    match quote, s.rest with
    | _, [] => none
    | .single, '\'' :: '\'' :: _ => do
      let (cs, s) ← quotedChars? quote flow margin steps (s.advance 2)
      pure ('\'' :: cs, s)
    | .single, '\'' :: _ => some ([], s.next)
    | .double, '"' :: _ => some ([], s.next)
    | .double, '\\' :: '\n' :: _ => do
      let (gap, s) ← quotedGapWithin? quote flow margin (.joined 0) (s.advance 2)
      let (cs, s) ← quotedChars? quote flow margin steps s
      pure (gap.text ++ cs, s)
    | .double, '\\' :: cs => do
      let (c, length) ← escape? cs
      let (cs, s) ← quotedChars? quote flow margin steps (s.advance (length + 1))
      pure (c :: cs, s)
    | _, c :: _ =>
      if isGap c then do
        let (gap, s) ← quotedGapWithin? quote flow margin (.blanks []) s
        let (cs, s) ← quotedChars? quote flow margin steps s
        pure (gap.text ++ cs, s)
      else do
        let (cs, s) ← quotedChars? quote flow margin steps s.next
        pure (c :: cs, s)

/-- Whether a text may follow a quoted scalar, with nothing but blanks and a comment between them.
Outside of flow collections only a scalar on one line may be a key. -/
def mayFollowQuoted (flow oneLine : Bool) : List Char → Bool
  | [] => true
  | c :: _ =>
    c == '\n' || (if flow then ",]\x7d:".toList.contains c else c == ':' && oneLine)

/-- The quoted scalar at a cursor, and the cursor behind it and the blanks and the comment that
follow it. -/
def Cursor.quoted? (quote : Quote) (flow : Bool) (margin : Nat) (s : Cursor) :
    Option (List Char × Cursor) := do
  let (cs, t) ← quotedChars? quote flow margin (s.rest.length + 1) s.next
  let t ← t.pastComment?
  if mayFollowQuoted flow (t.place.line == s.place.line) t.rest then some (cs, t) else none

end CallToAction.Yaml
