/-!
# White space

`isBlank` is the Unicode property `White_Space`, so trimming treats a no-break space like a space.
A zero-width space and a byte order mark are not white space.
-/

namespace CallToAction

/-- The characters with the Unicode property `White_Space`. -/
def isBlank (c : Char) : Bool :=
  let n := c.toNat
  (9 ≤ n && n ≤ 13) || n == 0x20 || n == 0x85 || n == 0xa0 || n == 0x1680
    || (0x2000 ≤ n && n ≤ 0x200a) || n == 0x2028 || n == 0x2029 || n == 0x202f
    || n == 0x205f || n == 0x3000

namespace Text

/-- The characters without leading white space. -/
def trimLeft (cs : List Char) : List Char := cs.dropWhile isBlank

/-- The characters without trailing white space. -/
def trimRight (cs : List Char) : List Char := (cs.reverse.dropWhile isBlank).reverse

/-- The text without surrounding white space. -/
def trim (s : String) : String := .ofList (trimRight (trimLeft s.toList))

/-- The text without trailing white space. -/
def trimEnd (s : String) : String := .ofList (trimRight s.toList)

/-- Whether a text is empty but for white space. -/
def allBlank (s : String) : Bool := s.toList.all isBlank

/-- A text that begins with something else is not blank. -/
theorem allBlank_ofList_cons {c : Char} (cs : List Char) (h : isBlank c = false) :
    allBlank (.ofList (c :: cs)) = false := by
  simp [allBlank, h]

theorem allBlank_append_left {s : String} (h : allBlank s = false) (t : String) :
    allBlank (s ++ t) = false := by
  unfold allBlank at h ⊢
  rw [String.toList_append, List.all_append, h, Bool.false_and]

end Text

end CallToAction
