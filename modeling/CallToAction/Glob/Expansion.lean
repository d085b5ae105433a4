import CallToAction.FileTree.Basic
import CallToAction.Glob.Pattern

/-!
# Expansion of patterns

A pattern of paths is a pattern of names for each component.  It stands for the paths of a file tree
that fit it.  A component without wildcards is looked up as it is spelled, so two dots lead upwards;
a leading dot is matched by wildcards like any other character, but the directory itself and the one
above it only by patterns that begin with a dot.

What uses the paths of patterns takes them from a `Look`, of which `look` is the one among the files
of a tree.
-/

namespace CallToAction

namespace Glob

/-- A component of a pattern. -/
inductive Component
  /-- A name without wildcards. -/
  | literal (name : String)
  /-- Any directories on the way. -/
  | anyDirectories
  | wild (pieces : List Wildcard)
  deriving DecidableEq, Repr

/-- Whether a component stands for a name. -/
def Component.fits : Component → String → Bool
  | literal s, name => s == name
  | anyDirectories, _ => true
  | wild pieces, name => Pattern.fits pieces name.toList

/-- The component with these pieces. -/
def Component.ofPieces (pieces : List Wildcard) : Component :=
  match Pattern.literal? pieces with
  | some name => literal (.ofList name)
  | none => if pieces = [.anyDirectories] then anyDirectories else wild pieces

/-- The components without repeated steps over directories. -/
def collapse : List Component → List Component
  | .anyDirectories :: .anyDirectories :: rest => collapse (.anyDirectories :: rest)
  | component :: rest => component :: collapse rest
  | [] => []

/-- A pattern of paths. -/
structure PathPattern where
  absolute : Bool
  components : List Component
  /-- Whether the pattern stands for directories alone. -/
  directoriesOnly : Bool

/-- The parts of a pattern between slashes; a slash at the end has nothing behind it. -/
def parts (cs : List Char) : List (List Char) :=
  let parts := Path.split cs
  if parts.getLast? = some [] then parts.dropLast else parts

/-- Read a pattern of paths. -/
def PathPattern.parse (text : String) : Except PatternError PathPattern :=
  match Pattern.parse text.toList with
  | .error e => .error e
  | .ok _ =>
    let absolute := Path.isAbsolute text
    let relative := if absolute then text.toList.tail else text.toList
    match (parts relative).mapM Pattern.parse with
    | .error e => .error e
    | .ok components =>
      .ok ⟨absolute, collapse (components.map .ofPieces), text.toList.getLast? == some '/'⟩

/-! ### Matches -/

/-- Whether a path is a spelling of the working directory. -/
def isHere (path : String) : Bool :=
  path != "" && (Path.split path.toList).all fun part => part == [] || part == ['.']

/-- The path of a component behind a path; the working directory is left out. -/
def behind (path name : String) : String :=
  if isHere path && !Path.isAbsolute path then name else Path.join path name

/-- Whether a directory stands at a path. -/
def isDirectory (files : FileTree) (path : String) : Bool := files.find? path == some .directory

/-- The paths of the entries in the directory at a path. -/
def children (files : FileTree) (path : String) : List String :=
  match files.locate path with
  | .ok route => (files.names route).map (behind path)
  | .error _ => []

/-- The paths of the entries below the directory at a path. -/
def descendants (files : FileTree) (path : String) : List String :=
  match files.locate path with
  | .ok route => (files.below route).map fun names => names.foldl behind path
  | .error _ => []

/-- The names of the directory above and of a directory itself that a component stands for. -/
def dots : Component → List String
  | .wild (.char '.' :: pieces) =>
    ["..", "."].filter fun name => Pattern.fits (.char '.' :: pieces) name.toList
  | _ => []

/-- The last component of a path that exists, as it is matched. -/
def lastName (path : String) : String := ((Path.parts path).getLast?).getD ""

/-- The paths behind a path that fit components. -/
def matching (files : FileTree) (path : String) : List Component → List String
  | [] => [path]
  | .literal name :: rest =>
    let next := behind path name
    let exists? := if name = "." ∨ name = ".." then isDirectory files path else files.contains next
    if exists? then matching files next rest else []
  | .wild pieces :: rest =>
    let component := Component.wild pieces
    (if isDirectory files path then
        (dots component).flatMap fun name => matching files (Path.join path name) rest
      else [])
      ++ ((children files path).filter fun p => component.fits (lastName p)).flatMap
        (fun p => matching files p rest)
  | [.anyDirectories] => (descendants files path).filter (isDirectory files)
  | .anyDirectories :: component :: rest =>
    ((descendants files path).filter fun p => component.fits (lastName p)).flatMap
      (fun p => matching files p rest)

/-- The paths that a pattern stands for, in the order in which they are found. -/
def PathPattern.paths (files : FileTree) (pattern : PathPattern) : List String :=
  let found := matching files (if pattern.absolute then "/" else ".") pattern.components
  if pattern.directoriesOnly then found.filter (isDirectory files) else found

/-! ### Looking up -/

/-- A directory on the way that cannot be listed, and why, in words. -/
structure Refusal where
  path : String
  cause : String
  deriving DecidableEq, Repr

/-- The wording of a `Refusal`. -/
def Refusal.message (r : Refusal) : String :=
  "attempting to read `" ++ r.path ++ "` resulted in an error: " ++ r.cause

/-- What patterns are looked up in: one after another come the paths that fit a pattern and the
directories that cannot be listed. -/
def Look := String → Except PatternError (List (Except Refusal String))

/-- Looking patterns up in a file tree, where every directory can be listed. -/
def look (files : FileTree) : Look := fun text =>
  (PathPattern.parse text).map fun pattern => (pattern.paths files).map .ok

/-- The paths that were found, unless there is a directory that cannot be listed. -/
def gather : List (Except Refusal String) → Except Refusal (List String)
  | [] => .ok []
  | .ok path :: found => (gather found).map (path :: ·)
  | .error refusal :: _ => .error refusal

end Glob

/-- Whether a text is a pattern rather than a path. -/
def isPattern (text : String) : Bool := text.toList.any fun c => c == '*' || c == '?' || c == '['

end CallToAction
