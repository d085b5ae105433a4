import CallToAction.Text.Layout

/-!
# Paths

A path names its components one after another, with slashes between them.  Empty components and
those that are a single dot lead nowhere, so a path may have many spellings; two dots lead to the
directory above.

`Path.name?` and `Path.parent` take a path apart at its last component, passing over what leads
nowhere behind it.  Paths are listed in the order of their components, however these are spelled.
-/

namespace CallToAction.Path

/-- The parts of a text between slashes. -/
def split : List Char → List (List Char)
  | [] => [[]]
  | c :: cs =>
    if c = '/' then [] :: split cs
    else match split cs with
      | [] => [[c]]
      | part :: parts => (c :: part) :: parts

/-- The components of a path as they are written. -/
def parts (path : String) : List String := (split path.toList).map .ofList

/-- Whether a path starts at the root of all files. -/
def isAbsolute (path : String) : Bool := path.toList.head? == some '/'

/-- The parts of a path, last one first, from the last one that leads somewhere. -/
def dropIdle : List String → List String
  | [] => []
  | [part] => [part]
  | part :: rest => if part = "" ∨ part = "." then dropIdle rest else part :: rest

/-- The parts of a path, last one first, from its last component. -/
def reversed (path : String) : List String := dropIdle (parts path).reverse

/-- The last component of a path, unless it leads nowhere or above. -/
def name? (path : String) : Option String :=
  match reversed path with
  | part :: _ => if part = "" ∨ part = "." ∨ part = ".." then none else some part
  | [] => none

/-- The path without its last component. -/
def parent (path : String) : String :=
  match reversed path with
  | [] | [_] => ""
  | _ :: rest =>
    match dropIdle rest with
    | [""] => "/"
    | above => Text.joinWith "/" above.reverse

/-- What stands behind the last dot of a file's name, if the name does not begin with that dot. -/
def suffix? (path : String) : Option String := do
  let name ← name? path
  let back := name.toList.reverse
  let suffix := back.takeWhile (· != '.')
  if suffix.length + 1 < back.length then some (.ofList suffix.reverse) else none

/-- A path below another one. -/
def join (path name : String) : String :=
  if path.toList.getLast? = some '/' then path ++ name else path ++ "/" ++ name

/-! ### Order -/

/-- A component as it is listed: the root of all files first, the working directory, the directory
above, then names. -/
def rank (part : String) : Nat × String :=
  if part = "." then (1, "") else if part = ".." then (2, "") else (3, part)

/-- The components by which a path is listed.  Those that lead nowhere do not count, but for the
root of all files, and a dot at the very beginning. -/
def ranks (path : String) : List (Nat × String) :=
  match parts path with
  | [] => []
  | part :: rest =>
    let first := if part ≠ "" then [rank part] else if isAbsolute path then [(0, "")] else []
    first ++ (rest.filter fun s => s ≠ "" ∧ s ≠ ".").map rank

/-- Whether a component is listed before another one. -/
def rankLt (a b : Nat × String) : Bool := a.1 < b.1 || (a.1 == b.1 && a.2 < b.2)

/-- Whether a path is listed no later than another one. -/
def precedes (p q : String) : Bool := !(ranks q).lex (ranks p) rankLt

/-- Whether names one below the other are listed no later than others. -/
def namesPrecede (names others : List String) : Bool := !others.lex names fun a b => a < b

end CallToAction.Path
