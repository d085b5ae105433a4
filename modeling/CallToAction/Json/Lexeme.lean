import CallToAction.Json.Numeral
import CallToAction.Text.Hexadecimal

/-!
# The lexemes of a document

A document is a list of lexemes with blanks between them.  `Lexeme.scan` finds them from left to
right.  It always succeeds: where a lexeme is broken, its fault stands in the list as the last
entry, so that a reader of the list meets the problems of a text in the order in which they occur.

* `length_first_le`: each lexeme shortens the text, which is why the scan ends.
-/

namespace CallToAction.Json

/-- An unbroken piece of a document. -/
inductive Lexeme
  | braceOpen
  | braceClose
  | bracketOpen
  | bracketClose
  | comma
  | colon
  | null
  | bool (value : Bool)
  | number (value : Numeral)
  | text (value : String)
  /-- A quoted text that is broken. -/
  | brokenText (fault : Fault)
  /-- Anything else that is broken, or out of place in every document. -/
  | broken (fault : Fault)
  deriving DecidableEq

/-- The blanks of documents. -/
def isGap (c : Char) : Bool := c == ' ' || c == '\n' || c == '\t' || c == '\r'

namespace Lexeme

/-- Take given letters off a text. -/
def letters : List Char → List Char → Except Fault (List Char)
  | [], cs => .ok cs
  | _ :: _, [] => .error .unexpectedEnd
  | a :: as, c :: cs => if a = c then letters as cs else .error .malformed

/-! ### Quoted texts -/

/-- Take a code unit of four hexadecimal digits off a text.  A rest of fewer than four bytes ends
too early. -/
def codeUnit : List Char → Except Fault (Nat × List Char)
  | a :: b :: c :: d :: rest =>
    match Text.hex? [a, b, c, d] with
    | some n => .ok (n, rest)
    | none => .error .malformed
  | short => .error (if (String.ofList short).utf8ByteSize < 4 then .unexpectedEnd else .malformed)

/-- Take the low half of a surrogate pair off a text, after its high half. -/
def lowHalf (high : Nat) (cs : List Char) : Except Fault (Char × List Char) :=
  match letters ['\\', 'u'] cs with
  | .error f => .error f
  | .ok cs =>
    match codeUnit cs with
    | .error f => .error f
    | .ok (low, rest) =>
      if 0xdc00 ≤ low ∧ low ≤ 0xdfff then
        .ok (.ofNat (0x10000 + (high - 0xd800) * 0x400 + (low - 0xdc00)), rest)
      else .error .malformed

/-- Take a character spelled by its code units off a text. -/
def spelledChar (cs : List Char) : Except Fault (Char × List Char) :=
  match codeUnit cs with
  | .error f => .error f
  | .ok (n, rest) =>
    if n < 0xd800 ∨ 0xdfff < n then .ok (.ofNat n, rest)
    else if n < 0xdc00 then lowHalf n rest
    else .error .malformed

/-- The character that a letter after a backslash stands for. -/
def escaped? : Char → Option Char
  | '"' => some '"'
  | '\\' => some '\\'
  | '/' => some '/'
  | 'b' => some '\x08'
  | 'f' => some '\x0c'
  | 'n' => some '\n'
  | 'r' => some '\r'
  | 't' => some '\t'
  | _ => none

/-- Take the rest of an escape off a text, after its backslash. -/
def escape : List Char → Except Fault (Char × List Char)
  | [] => .error .unexpectedEnd
  | c :: cs =>
    if c = 'u' then spelledChar cs
    else match escaped? c with
      | some d => .ok (d, cs)
      | none => .error .malformed

theorem length_letters_le {ending cs rest : List Char} (h : letters ending cs = .ok rest) :
    rest.length ≤ cs.length := by
  induction ending generalizing cs with
  | nil =>
    cases h
    exact Nat.le_refl _
  | cons a as ih =>
    cases cs with
    | nil => cases h
    | cons c cs =>
      unfold letters at h
      split at h
      · have := ih h
        simp only [List.length_cons]
        omega
      · cases h

theorem length_codeUnit_lt {cs rest : List Char} {n : Nat} (h : codeUnit cs = .ok (n, rest)) :
    rest.length < cs.length := by
  unfold codeUnit at h
  split at h
  · split at h
    · cases h
      simp only [List.length_cons]
      omega
    · cases h
  · cases h

theorem length_lowHalf_lt {high : Nat} {cs rest : List Char} {c : Char}
    (h : lowHalf high cs = .ok (c, rest)) : rest.length < cs.length := by
  unfold lowHalf at h
  split at h
  · cases h
  · rename_i unit
    have := length_letters_le unit
    split at h
    · cases h
    · rename_i unit
      have := length_codeUnit_lt unit
      split at h
      · simp only [Except.ok.injEq, Prod.mk.injEq] at h
        rw [← h.2]
        omega
      · cases h

theorem length_spelledChar_lt {cs rest : List Char} {c : Char}
    (h : spelledChar cs = .ok (c, rest)) : rest.length < cs.length := by
  unfold spelledChar at h
  split at h
  · cases h
  · rename_i unit
    have := length_codeUnit_lt unit
    split at h
    · cases h
      assumption
    · split at h
      · have := length_lowHalf_lt h
        omega
      · cases h

theorem length_escape_lt {cs rest : List Char} {c : Char} (h : escape cs = .ok (c, rest)) :
    rest.length < cs.length := by
  unfold escape at h
  split at h
  · cases h
  · split at h
    · have := length_spelledChar_lt h
      simp only [List.length_cons]
      omega
    · split at h
      · cases h
        simp
      · cases h

/-- Take the rest of a quoted text off a text, after its opening quote. -/
def quoted (cs : List Char) : Except Fault (List Char × List Char) :=
  match cs with
  | [] => .error .unexpectedEnd
  | c :: cs =>
    if c = '"' then .ok ([], cs)
    else if c = '\\' then
      match h : escape cs with
      | .error f => .error f
      | .ok (d, rest) =>
        have := length_escape_lt h
        (quoted rest).map fun (ds, rest) => (d :: ds, rest)
    else if c < ' ' then .error .malformed
    else (quoted cs).map fun (ds, rest) => (c :: ds, rest)
termination_by cs.length

theorem length_quoted_lt {cs ds rest : List Char} (h : quoted cs = .ok (ds, rest)) :
    rest.length < cs.length := by
  fun_induction quoted cs generalizing ds rest with
  | case1 => cases h
  | case2 =>
    cases h
    simp
  | case3 => cases h
  | case4 cs d rest' found _ _ ih =>
    cases inner : quoted rest' with
    | error f => simp [inner, Except.map] at h
    | ok r =>
      have := ih inner
      simp only [inner, Except.map] at h
      cases h
      simp only [List.length_cons]
      omega
  | case5 => cases h
  | case6 c cs _ _ _ ih =>
    cases inner : quoted cs with
    | error f => simp [inner, Except.map] at h
    | ok r =>
      have := ih inner
      simp only [inner, Except.map] at h
      cases h
      simp only [List.length_cons]
      omega

/-! ### Scanning -/

/-- A lexeme read off a text; a broken one takes the rest of the text. -/
def close {α : Type} (lexeme : α → Lexeme) (broken : Fault → Lexeme) :
    Except Fault (α × List Char) → Lexeme × List Char
  | .ok (value, rest) => (lexeme value, rest)
  | .error f => (broken f, [])

/-- A word, after its first letter. -/
def word (lexeme : Lexeme) (ending : String) (cs : List Char) : Lexeme × List Char :=
  match letters ending.toList cs with
  | .ok rest => (lexeme, rest)
  | .error f => (.broken f, [])

/-- The lexeme that begins with a character, and the text after it. -/
def first (c : Char) (cs : List Char) : Lexeme × List Char :=
  match c with
  | '\x7b' => (.braceOpen, cs)
  | '\x7d' => (.braceClose, cs)
  | '[' => (.bracketOpen, cs)
  | ']' => (.bracketClose, cs)
  | ',' => (.comma, cs)
  | ':' => (.colon, cs)
  | 'n' => word .null "ull" cs
  | 't' => word (.bool true) "rue" cs
  | 'f' => word (.bool false) "alse" cs
  | '"' => close (fun ds => .text (.ofList ds)) .brokenText (quoted cs)
  | _ =>
    if c = '-' ∨ c.isDigit then close .number .broken (Numeral.read (c :: cs))
    else (.broken .malformed, [])

theorem length_word_le (lexeme : Lexeme) (ending : String) (cs : List Char) :
    (word lexeme ending cs).2.length ≤ cs.length := by
  unfold word
  split
  · rename_i found
    exact length_letters_le found
  · exact Nat.zero_le _

theorem length_first_le (c : Char) (cs : List Char) : (first c cs).2.length ≤ cs.length := by
  unfold first
  split
  · exact Nat.le_refl _
  · exact Nat.le_refl _
  · exact Nat.le_refl _
  · exact Nat.le_refl _
  · exact Nat.le_refl _
  · exact Nat.le_refl _
  · exact length_word_le _ _ _
  · exact length_word_le _ _ _
  · exact length_word_le _ _ _
  · cases h : quoted cs with
    | error f => exact Nat.zero_le _
    | ok r => exact Nat.le_of_lt (length_quoted_lt h)
  · split
    · cases h : Numeral.read (c :: cs) with
      | error f => exact Nat.zero_le _
      | ok r => exact Nat.le_of_lt_succ (Numeral.length_read_lt h)
    · exact Nat.zero_le _

/-- The lexemes of a text. -/
def scan (cs : List Char) : List Lexeme :=
  match gap : cs.dropWhile isGap with
  | [] => []
  | c :: rest =>
    have : (first c rest).2.length < cs.length := by
      have shorter := (List.dropWhile_sublist (l := cs) isGap).length_le
      rw [gap, List.length_cons] at shorter
      exact Nat.lt_of_le_of_lt (length_first_le c rest) shorter
    (first c rest).1 :: scan (first c rest).2
termination_by cs.length

end Lexeme

end CallToAction.Json
