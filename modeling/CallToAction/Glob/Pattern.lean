import CallToAction.Text.Layout

/-!
# Patterns of file names

A question mark stands for any character, an asterisk for any characters, and brackets for one of
the characters in them, or for any but those behind an exclamation mark.  Two asterisks stand for
directories on the way, and are a component of their own.

`Pattern.parse` reports the first mistake of a pattern with its place.
-/

namespace CallToAction

/-- A set of characters in brackets: a character, or a range of them. -/
inductive CharRange
  | single (c : Char)
  | range (first last : Char)
  deriving DecidableEq, Repr

/-- Whether a range holds a character. -/
def CharRange.admits : CharRange → Char → Bool
  | single d, c => c == d
  | range first last, c => first ≤ c && c ≤ last

/-- A piece of a pattern. -/
inductive Wildcard
  | char (c : Char)
  | anyChar
  | anyChars
  /-- Directories on the way. -/
  | anyDirectories
  | oneOf (ranges : List CharRange)
  | noneOf (ranges : List CharRange)
  deriving DecidableEq, Repr

/-- What is wrong with a pattern. -/
inductive PatternFault
  | wildcards
  | recursive
  | brackets
  deriving DecidableEq, Repr

/-- The wording of a `PatternFault`. -/
def PatternFault.message : PatternFault → String
  | wildcards => "wildcards are either regular `*` or recursive `**`"
  | recursive => "recursive wildcards must form a single path component"
  | brackets => "invalid range pattern"

/-- What is wrong with a pattern, and where. -/
structure PatternError where
  position : Nat
  fault : PatternFault
  deriving DecidableEq, Repr

/-- The wording of a `PatternError`. -/
def PatternError.message (e : PatternError) : String :=
  s!"Pattern syntax error near position {e.position}: {e.fault.message}"

namespace Pattern

/-- The ranges between brackets. -/
def ranges : List Char → List CharRange
  | a :: '-' :: b :: cs => .range a b :: ranges cs
  | a :: cs => .single a :: ranges cs
  | [] => []

/-- Take what stands between brackets off a text, and the closing bracket after it.  A closing
bracket at the very beginning stands for itself. -/
def bracketed : List Char → Option (List Char × List Char)
  | [] => none
  | c :: cs =>
    match cs.dropWhile (· != ']') with
    | [] => none
    | _ :: rest => some (c :: cs.takeWhile (· != ']'), rest)

/-- Take a bracketed piece off a text, after its opening bracket: the piece, and how many characters
it has. -/
def brackets : List Char → Option (Wildcard × Nat × List Char)
  | '!' :: cs => (bracketed cs).map fun (set, rest) => (.noneOf (ranges set), set.length + 3, rest)
  | cs => (bracketed cs).map fun (set, rest) => (.oneOf (ranges set), set.length + 2, rest)

theorem length_bracketed_lt {cs set rest : List Char} (h : bracketed cs = some (set, rest)) :
    rest.length < cs.length := by
  unfold bracketed at h
  split at h
  · cases h
  · rename_i c cs
    split at h
    · cases h
    · rename_i found
      have := (List.dropWhile_sublist (l := cs) (· != ']')).length_le
      rw [found] at this
      cases h
      simp only [List.length_cons] at this ⊢
      omega

theorem length_brackets_lt {cs rest : List Char} {piece : Wildcard} {n : Nat}
    (h : brackets cs = some (piece, n, rest)) : rest.length < cs.length := by
  unfold brackets at h
  split at h
  · obtain ⟨⟨set, rest'⟩, found, eq⟩ := Option.map_eq_some_iff.1 h
    cases eq
    exact Nat.lt_succ_of_lt (length_bracketed_lt found)
  · obtain ⟨⟨set, rest'⟩, found, eq⟩ := Option.map_eq_some_iff.1 h
    cases eq
    exact length_bracketed_lt found

/-- Read the pieces of a pattern from a position on, which is at the start of a component or not. -/
def parseFrom (position : Nat) (atStart : Bool) (cs : List Char) :
    Except PatternError (List Wildcard) :=
  match cs with
  | [] => .ok []
  | '*' :: '*' :: '*' :: _ => .error ⟨position + 2, .wildcards⟩
  | '*' :: '*' :: cs =>
    if !atStart then .error ⟨position - 1, .recursive⟩
    else match cs with
      | [] => .ok [.anyDirectories]
      | '/' :: cs => (parseFrom (position + 3) true cs).map (.anyDirectories :: ·)
      | _ => .error ⟨position + 2, .recursive⟩
  | '*' :: cs => (parseFrom (position + 1) false cs).map (.anyChars :: ·)
  | '?' :: cs => (parseFrom (position + 1) false cs).map (.anyChar :: ·)
  | '[' :: cs =>
    match h : brackets cs with
    | none => .error ⟨position, .brackets⟩
    | some (piece, length, rest) =>
      have := length_brackets_lt h
      (parseFrom (position + length) false rest).map (piece :: ·)
  | c :: cs => (parseFrom (position + 1) (c == '/') cs).map (.char c :: ·)
termination_by cs.length

/-- Read the pieces of a pattern. -/
def parse (cs : List Char) : Except PatternError (List Wildcard) := parseFrom 0 true cs

/-! ### Matching -/

/-- Whether a piece stands for a character. -/
def admits : Wildcard → Char → Bool
  | .char d, c => c == d
  | .oneOf ranges, c => ranges.any (·.admits c)
  | .noneOf ranges, c => !ranges.any (·.admits c)
  | _, _ => true

/-- The ends of a text, the whole of it first. -/
def suffixes : List Char → List (List Char)
  | [] => [[]]
  | c :: cs => (c :: cs) :: suffixes cs

/-- Whether pieces stand for a name. -/
def fits : List Wildcard → List Char → Bool
  | [], cs => cs.isEmpty
  | .anyChars :: pieces, cs | .anyDirectories :: pieces, cs => (suffixes cs).any (fits pieces)
  | _ :: _, [] => false
  | piece :: pieces, c :: cs => admits piece c && fits pieces cs

/-- The name that pieces stand for, if it is the only one. -/
def literal? : List Wildcard → Option (List Char)
  | [] => some []
  | .char c :: pieces => (literal? pieces).map (c :: ·)
  | _ => none

end Pattern

end CallToAction
