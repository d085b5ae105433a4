import CallToAction.FileTree.Path

/-!
# File trees

A file tree holds texts in directories.  Each entry is found by its route, the names on the way to
it from the working directory, or from the root of all files for an absolute path.  `FileTree.get?`
is the view through which operations are described.

A path is followed component by component through directories that must exist.  `replace` puts a
text at a path or leaves the tree alone.

* `get?_put_self`, `get?_put_of_ne`: an entry is written at its own route alone.
-/

namespace CallToAction

/-- Why a file operation is refused. -/
inductive OsError
  | notFound
  | alreadyExists
  | notDirectory
  | isDirectory
  | invalidArgument
  deriving DecidableEq, Repr

/-- The wording of an `OsError`. -/
def OsError.message : OsError → String
  | notFound => "No such file or directory (os error 2)"
  | alreadyExists => "File exists (os error 17)"
  | notDirectory => "Not a directory (os error 20)"
  | isDirectory => "Is a directory (os error 21)"
  | invalidArgument => "Invalid argument (os error 22)"

/-- The names on the way to an entry, from the working directory or from the root of all files. -/
structure Route where
  absolute : Bool
  names : List String
  deriving DecidableEq, Repr

/-- The route of an entry in the directory at a route. -/
def Route.child (route : Route) (name : String) : Route :=
  { route with names := route.names ++ [name] }

/-- A path that leads along a route. -/
def Route.path (route : Route) : String :=
  (if route.absolute then "/" else "./") ++ Text.joinWith "/" route.names

/-- What stands at a route. -/
inductive FileTree.Entry
  | directory
  | file (text : String)
  deriving DecidableEq, Repr

/-- Texts in directories. -/
structure FileTree where
  entries : List (Route × FileTree.Entry)
  deriving DecidableEq

namespace FileTree

/-- The tree that is empty but for its roots. -/
def empty : FileTree := ⟨[]⟩

/-- Whether a route leads to where it starts, or from there upwards only; there is always a
directory. -/
def isRoot (route : Route) : Bool := route.names.all (· == "..")

/-- What stands at a route. -/
def get? (files : FileTree) (route : Route) : Option Entry :=
  if isRoot route then some .directory else files.entries.lookup route

/-- Write an entry at a route. -/
def put (files : FileTree) (route : Route) (entry : Entry) : FileTree :=
  ⟨(route, entry) :: files.entries.filter (·.1 != route)⟩

/-- The names on the way from a directory to what stands below it.  Two dots lead out of it. -/
def inside? (route inner : Route) : Option (List String) :=
  if inner.absolute = route.absolute ∧ route.names <+: inner.names then
    match inner.names.drop route.names.length with
    | [] | ".." :: _ => none
    | names => some names
  else none

/-- The names of what stands below the directory at a route, from there on, in their order. -/
def below (files : FileTree) (route : Route) : List (List String) :=
  (files.entries.filterMap fun (inner, _) => inside? route inner).mergeSort Path.namesPrecede

/-- The names of what stands in the directory at a route, in their order. -/
def names (files : FileTree) (route : Route) : List String :=
  (files.below route).filterMap fun
    | [name] => some name
    | _ => none

/-! ### Paths -/

/-- The route of a component, seen from a route.  The root of all files is above itself. -/
def step (route : Route) (part : String) : Route :=
  if part = "" ∨ part = "." then route
  else if part = ".." then
    if isRoot route then if route.absolute then route else route.child ".."
    else { route with names := route.names.dropLast }
  else route.child part

/-- Where a path starts. -/
def start (path : String) : Route := ⟨Path.isAbsolute path, []⟩

/-- The directory at a route, or why there is none. -/
def directory (files : FileTree) (route : Route) : Except OsError Route :=
  match files.get? route with
  | some .directory => .ok route
  | some (.file _) => .error .notDirectory
  | none => .error .notFound

/-- Follow components through directories, the last one to wherever it leads. -/
def follow (files : FileTree) (route : Route) : List String → Except OsError Route
  | [] => .ok route
  | part :: parts =>
    match files.directory route with
    | .ok route => follow files (step route part) parts
    | .error e => .error e

/-- The route of a path. -/
def locate (files : FileTree) (path : String) : Except OsError Route :=
  if path = "" then .error .notFound else files.follow (start path) (Path.parts path)

/-- What stands at a path. -/
def find? (files : FileTree) (path : String) : Option Entry :=
  match files.locate path with
  | .ok route => files.get? route
  | .error _ => none

/-- Whether something stands at a path. -/
def contains (files : FileTree) (path : String) : Bool := (files.find? path).isSome

/-- The text at a path. -/
def read (files : FileTree) (path : String) : Except OsError String :=
  match files.locate path with
  | .error e => .error e
  | .ok route =>
    match files.get? route with
    | some (.file text) => .ok text
    | some .directory => .error .isDirectory
    | none => .error .notFound

/-! ### Writing -/

/-- Why directories are not made, and the files that there are by then. -/
structure Unmade where
  files : FileTree
  cause : OsError

/-- Make the directories on the way along components.  A file on the way ends it: as long as no
directory was made, one that is no directory for the components behind it, and otherwise one that
stands where a directory is to be made. -/
def makeAlong (files : FileTree) (route : Route) (made : Bool) :
    List String → Except Unmade FileTree
  | [] => .ok files
  | part :: parts =>
    let next := step route part
    match files.get? next with
    | some .directory => makeAlong files next made parts
    | some (.file _) =>
      .error ⟨files, if made || parts.isEmpty then .alreadyExists else .notDirectory⟩
    | none => makeAlong (files.put next .directory) next true parts

/-- Make a directory, and the directories above it. -/
def makeDirectories (files : FileTree) (path : String) : Except Unmade FileTree :=
  files.makeAlong (start path) false (Path.parts path)

/-- Why a text is not put at a path. -/
inductive WriteError
  /-- The directory of the path cannot be entered. -/
  | opening (cause : OsError)
  /-- What stands at the path cannot be replaced. -/
  | saving (cause : OsError)
  deriving DecidableEq, Repr

/-- The directory that a path lies in. -/
def home (files : FileTree) (path : String) : Except OsError Route :=
  if Path.parent path = "" then .ok ⟨false, []⟩
  else files.locate (Path.parent path) >>= files.directory

/-- Put a text at a path, in place of the file that stands there. -/
def replace (files : FileTree) (path text : String) : Except WriteError FileTree :=
  match Path.name? path, files.home path with
  | none, _ => .error (.opening .invalidArgument)
  | _, .error e => .error (.opening e)
  | some name, .ok route =>
    match files.get? (route.child name) with
    | some .directory => .error (.saving .isDirectory)
    | _ => .ok (files.put (route.child name) (.file text))

/-- The entries of a tree that another one lacks or has otherwise. -/
def changes (before after : FileTree) : List (Route × Entry) :=
  after.entries.reverse.filter fun (route, entry) => before.get? route != some entry

/-! ### The view -/

theorem get?_put_self {files : FileTree} {route : Route} {entry : Entry}
    (h : isRoot route = false) : (files.put route entry).get? route = some entry := by
  simp [get?, put, h]

theorem get?_put_of_ne {files : FileTree} {route other : Route} {entry : Entry}
    (h : other ≠ route) : (files.put route entry).get? other = files.get? other := by
  unfold get? put
  split
  · rfl
  · have head : (other == route) = false := by simpa using h
    simp only [List.lookup_cons, head]
    induction files.entries with
    | nil => rfl
    | cons e es ih =>
      obtain ⟨r, x⟩ := e
      by_cases same : r = route
      · simp [same, List.lookup_cons, head, ih]
      · by_cases found : other = r
        · simp [same, found]
        · have pass : (other == r) = false := by simpa using found
          simp [same, List.lookup_cons, pass, ih]

end FileTree

end CallToAction
