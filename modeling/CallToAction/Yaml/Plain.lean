import CallToAction.Yaml.Gap

/-!
# Plain scalars

A plain scalar is made of words with gaps between them.  It ends before a colon that stands by
itself, before a comment, before a mark of flow collections when it stands in one, and, outside of
them, before a line that is not indented up to its margin.
-/

namespace CallToAction.Yaml

/-- Whether a word of a plain scalar ends before a character. -/
def endsWord (flow : Bool) (c : Char) (cs : List Char) : Bool :=
  isGap c || (c == ':' && (atGap cs || (flow && atFlowMark cs))) || (flow && isFlowMark c)

/-- Whether a plain scalar goes on at a cursor, behind a gap. -/
def plainGoesOn (flow : Bool) (margin : Nat) (s : Cursor) : Bool :=
  (flow || margin ≤ s.column) && !(s.column == 0 && atDocumentMark s.rest) &&
    match s.rest with
    | [] => false
    | c :: cs => c != '#' && !endsWord flow c cs

/-- Whether a hyphen stands before a mark of flow collections, where no word may begin. -/
def isLoneHyphen (flow : Bool) : List Char → Bool
  | '-' :: cs => flow && atFlowMark cs
  | _ => false

/-- The words of a plain scalar from a cursor on, and the cursor behind them and the gap that
follows them. -/
def plainWords? (flow : Bool) (margin : Nat) : Nat → Cursor → Option (List Char × Cursor)
  | 0, _ => none
  | steps + 1, s =>
    if isLoneHyphen flow s.rest then none
    else
      let (word, s) := s.span (endsWord flow)
      if s.rest.isEmpty || !atGap s.rest then some (word, s)
      else do
        let (gap, s) ← s.gap? false margin
        if plainGoesOn flow margin s then
          let (words, s) ← plainWords? flow margin steps s
          pure (word ++ gap.text ++ words, s)
        else pure (word, s)

/-- The plain scalar at a cursor, and the cursor behind it and the gap that follows it. -/
def Cursor.plain? (flow : Bool) (margin : Nat) (s : Cursor) : Option (List Char × Cursor) :=
  if flow && s.column < margin then none
  else plainWords? flow margin (s.rest.length + 1) s

end CallToAction.Yaml
