/-!
# Columns and lines

Widths count characters.  A text longer than its column is left as it is by padding, and cut with
an ellipsis by `Text.fit`.

* `length_fit_le`: a fitted text is no wider than its column.
-/

namespace CallToAction.Text

/-- `n` spaces. -/
def spaces (n : Nat) : String := .ofList (List.replicate n ' ')

/-- The text at the right of a column. -/
def padLeft (width : Nat) (s : String) : String := spaces (width - s.length) ++ s

/-- The text at the left of a column. -/
def padRight (width : Nat) (s : String) : String := s ++ spaces (width - s.length)

/-- The texts with a separator between neighbours. -/
def joinWith (separator : String) : List String → String
  | [] => ""
  | [s] => s
  | s :: rest => s ++ separator ++ joinWith separator rest

/-- The texts as lines; the last line has no line break. -/
def lines (ls : List String) : String := joinWith "\n" ls

/-- The first `n` characters. -/
def first (n : Nat) (s : String) : String := .ofList (s.toList.take n)

/-- The text cut to a column: what is cut is marked by three dots where they leave room for text. -/
def fit (width : Nat) (s : String) : String :=
  if s.length ≤ width then s
  else if 3 < width then first (width - 3) s ++ "..."
  else first width s

theorem length_first_le (n : Nat) (s : String) : (first n s).length ≤ n := by
  rw [first, String.length_ofList, List.length_take]
  exact Nat.min_le_left n _

theorem length_fit_le (width : Nat) (s : String) : (fit width s).length ≤ width := by
  unfold fit
  split
  · assumption
  · split
    · have := length_first_le (width - 3) s
      rw [String.length_append, show "...".length = 3 by decide]
      omega
    · exact length_first_le width s

end CallToAction.Text
