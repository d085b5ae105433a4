import CallToAction.Glob.Expansion
import CallToAction.Proofs.FileTree.Locating
import Mathlib.Data.List.Infix

/-!
# What patterns find

A pattern of names fits a name that can be cut into pieces, one for each wildcard.  A pattern of
paths leads from where it starts through a tree, component by component: to the path of a name that
is spelled out, to the entries of a directory whose names fit, or to entries at any depth.  The
paths that a pattern finds are those that it leads to.

* `Pattern.Fits`, `Pattern.fits_iff`: the names that a pattern of names fits;
* `FileTree.StandsBelow`: the entries below a directory, by their names from there on;
* `FileTree.AllNamed`, `FileTree.AllNamed.replace`: no name in a tree has a slash;
* `Glob.Leads`: where the components of a pattern lead;
* `Glob.mem_matching_iff`, `Glob.PathPattern.mem_paths_iff`: the paths that a pattern finds.
-/

namespace CallToAction

/-! ### Names -/

/-- A range has a character in it. -/
def CharRange.Holds : CharRange → Char → Prop
  | single d, c => c = d
  | range first last, c => first ≤ c ∧ c ≤ last

theorem CharRange.admits_iff (r : CharRange) (c : Char) : r.admits c = true ↔ r.Holds c := by
  cases r <;> simp [admits, Holds]

namespace Pattern

/-- A piece stands for any number of characters. -/
def Runs (piece : Wildcard) : Prop := piece = .anyChars ∨ piece = .anyDirectories

/-- A piece stands for a character. -/
inductive Admits : Wildcard → Char → Prop
  | char (c : Char) : Admits (.char c) c
  | anyChar (c : Char) : Admits .anyChar c
  | oneOf {ranges : List CharRange} {r : CharRange} {c : Char} (given : r ∈ ranges)
    (holds : r.Holds c) : Admits (.oneOf ranges) c
  | noneOf {ranges : List CharRange} {c : Char} (outside : ∀ r ∈ ranges, ¬ r.Holds c) :
    Admits (.noneOf ranges) c

/-- Pieces stand for the characters of a name, one after another. -/
inductive Fits : List Wildcard → List Char → Prop
  | nil : Fits [] []
  | one {piece : Wildcard} {pieces : List Wildcard} {c : Char} {cs : List Char}
    (admits : Admits piece c) (rest : Fits pieces cs) : Fits (piece :: pieces) (c :: cs)
  | many {piece : Wildcard} {pieces : List Wildcard} (run : List Char) {cs : List Char}
    (runs : Runs piece) (rest : Fits pieces cs) : Fits (piece :: pieces) (run ++ cs)

variable {piece : Wildcard} {pieces : List Wildcard}

theorem Admits.not_runs {c : Char} (h : Admits piece c) : ¬ Runs piece := by
  cases h <;> simp [Runs]

theorem admits_iff (single : ¬ Runs piece) (c : Char) : admits piece c = true ↔ Admits piece c := by
  constructor
  · intro h
    cases piece with
    | char d =>
      obtain rfl : c = d := by simpa [admits] using h
      exact .char c
    | anyChar => exact .anyChar c
    | anyChars => exact absurd (.inl rfl) single
    | anyDirectories => exact absurd (.inr rfl) single
    | oneOf ranges =>
      simp only [admits, List.any_eq_true, CharRange.admits_iff] at h
      obtain ⟨r, given, holds⟩ := h
      exact .oneOf given holds
    | noneOf ranges =>
      simp only [admits, Bool.not_eq_true', List.any_eq_false, CharRange.admits_iff] at h
      exact .noneOf h
  · intro h
    cases h with
    | char => simp [admits]
    | anyChar => rfl
    | oneOf given holds =>
      simp only [admits, List.any_eq_true, CharRange.admits_iff]
      exact ⟨_, given, holds⟩
    | noneOf outside =>
      simp only [admits, Bool.not_eq_true', List.any_eq_false, CharRange.admits_iff]
      exact outside

theorem mem_suffixes_iff (cs ds : List Char) : ds ∈ suffixes cs ↔ ds <:+ cs := by
  induction cs with
  | nil => simp [suffixes]
  | cons c cs ih => rw [suffixes, List.mem_cons, ih, List.suffix_cons_iff]

theorem fits_cons_of_runs (runs : Runs piece) (cs : List Char) :
    fits (piece :: pieces) cs = (suffixes cs).any (fits pieces) := by
  rcases runs with rfl | rfl <;> rw [fits]

theorem fits_cons_nil (single : ¬ Runs piece) : fits (piece :: pieces) [] = false := by
  cases piece <;> simp_all [fits, Runs]

theorem fits_cons_cons (single : ¬ Runs piece) (c : Char) (cs : List Char) :
    fits (piece :: pieces) (c :: cs) = (admits piece c && fits pieces cs) := by
  cases piece <;> simp_all [fits, Runs]

/-- A pattern of names fits a name that its pieces stand for. -/
theorem fits_iff (pieces : List Wildcard) (cs : List Char) :
    fits pieces cs = true ↔ Fits pieces cs := by
  induction pieces generalizing cs with
  | nil =>
    rw [fits, List.isEmpty_iff]
    constructor
    · rintro rfl
      exact .nil
    · rintro ⟨⟩
      rfl
  | cons piece pieces ih =>
    constructor
    · intro h
      by_cases runs : Runs piece
      · rw [fits_cons_of_runs runs, List.any_eq_true] at h
        obtain ⟨ds, behind, rest⟩ := h
        obtain ⟨run, rfl⟩ := (mem_suffixes_iff _ _).1 behind
        exact .many run runs ((ih ds).1 rest)
      · cases cs with
        | nil =>
          rw [fits_cons_nil runs] at h
          cases h
        | cons c cs =>
          rw [fits_cons_cons runs, Bool.and_eq_true, admits_iff runs, ih] at h
          exact .one h.1 h.2
    · intro h
      cases h with
      | one admits rest =>
        rw [fits_cons_cons admits.not_runs, Bool.and_eq_true, admits_iff admits.not_runs, ih]
        exact ⟨admits, rest⟩
      | @many _ _ run cs runs rest =>
        rw [fits_cons_of_runs runs, List.any_eq_true]
        exact ⟨cs, (mem_suffixes_iff _ _).2 ⟨run, rfl⟩, (ih cs).2 rest⟩

end Pattern

namespace Path

theorem split_append_slash_append (cs ds : List Char) :
    split (cs ++ '/' :: ds) = split cs ++ split ds := by
  induction cs with
  | nil => exact split_slash_cons ds
  | cons c cs ih =>
    by_cases slash : c = '/'
    · subst slash
      rw [List.cons_append, split_slash_cons, ih, split_slash_cons, List.cons_append]
    · cases parts : split cs with
      | nil => exact absurd parts (split_ne_nil cs)
      | cons first rest =>
        rw [parts, List.cons_append] at ih
        rw [List.cons_append, split_cons_of_ne slash ih, split_cons_of_ne slash parts,
          List.cons_append]

/-- The parts of a path below another one end in its name. -/
theorem exists_parts_join (path : String) {name : String} (h : '/' ∉ name.toList) :
    ∃ above, parts (join path name) = above ++ [name] := by
  have ending (cs : List Char) :
      (split (cs ++ '/' :: name.toList)).map String.ofList =
        (split cs).map .ofList ++ [name] := by
    rw [split_append_slash_append, split_of_not_mem h, List.map_append, List.map_singleton,
      String.ofList_toList]
  unfold join parts
  split_ifs with slash
  · obtain ⟨cs, whole⟩ := List.getLast?_eq_some_iff.1 slash
    rw [String.toList_append, whole, List.append_assoc, List.singleton_append]
    exact ⟨_, ending cs⟩
  · rw [String.toList_append, String.toList_append, List.append_assoc]
    exact ⟨_, ending path.toList⟩

end Path

/-! ### Entries -/

namespace FileTree

/-- The names on a route have no slashes. -/
def Named (route : Route) : Prop := ∀ name ∈ route.names, '/' ∉ name.toList

/-- The names in a tree have no slashes. -/
def AllNamed (files : FileTree) : Prop := ∀ e ∈ files.entries, Named e.1

/-- An entry stands below the directory at a route, at these names from there on. -/
structure StandsBelow (files : FileTree) (route : Route) (names : List String) : Prop where
  ne_nil : names ≠ []
  inside : names.head? ≠ some ".."
  exists_entry : ∃ entry, (⟨route.absolute, route.names ++ names⟩, entry) ∈ files.entries

variable {files : FileTree} {path : String} {route r : Route} {names : List String}

theorem Named.child (named : Named route) {name : String} (h : '/' ∉ name.toList) :
    Named (route.child name) := by
  intro other given
  rcases List.mem_append.1 given with given | given
  · exact named other given
  · rwa [List.mem_singleton.1 given]

theorem Named.step (named : Named route) {part : String} (h : '/' ∉ part.toList) :
    Named (step route part) := by
  unfold FileTree.step
  split_ifs
  · exact named
  · exact named
  · exact named.child (by decide)
  · exact fun name given => named name (List.mem_of_mem_dropLast given)
  · exact named.child h

/-- Paths lead along names without slashes. -/
theorem named_of_follow {parts : List String} (leads : files.follow route parts = .ok r)
    (named : Named route) (h : ∀ part ∈ parts, '/' ∉ part.toList) : Named r := by
  induction parts generalizing route with
  | nil =>
    cases leads
    exact named
  | cons part parts ih =>
    obtain ⟨-, leads⟩ := (follow_cons_eq_ok_iff part parts).1 leads
    rw [List.forall_mem_cons] at h
    exact ih leads (named.step h.1) h.2

/-- Putting a text at a path brings no slashes into the names of a tree. -/
theorem AllNamed.replace (named : files.AllNamed) {text : String} {after : FileTree}
    (h : files.replace path text = .ok after) : after.AllNamed := by
  obtain ⟨_, ⟨name, above, given, home, rfl, -⟩, rfl⟩ := (replace_eq_ok_iff text after).1 h
  obtain ⟨dirs, idles, splits⟩ := Path.exists_splits given
  have plain (part : String) (given : part ∈ dirs ++ name :: idles) : '/' ∉ part.toList :=
    Path.not_mem_of_mem_parts (splits.parts_eq ▸ given)
  have start : Named (start path) := fun _ none => absurd none List.not_mem_nil
  have above_named := named_of_follow ((home_eq_ok_iff splits).1 home).1 start fun part given =>
    plain part (List.mem_append_left _ given)
  intro e given
  rcases List.mem_cons.1 given with rfl | kept
  · exact above_named.child (plain name (List.mem_append_right _ List.mem_cons_self))
  · exact named e (List.mem_filter.1 kept).1

theorem inside?_eq_some_iff (inner : Route) :
    inside? route inner = some names ↔
      names ≠ [] ∧ names.head? ≠ some ".." ∧ inner = ⟨route.absolute, route.names ++ names⟩ := by
  obtain ⟨absolute, inner⟩ := inner
  unfold inside?
  constructor
  · intro h
    split_ifs at h with within
    obtain ⟨rfl, names', rfl⟩ := within
    rw [List.drop_left] at h
    split at h
    · cases h
    · cases h
    · rename_i some down
      cases h
      refine ⟨some, fun up => ?_, rfl⟩
      obtain ⟨rest, rfl⟩ := List.head?_eq_some_iff.1 up
      exact down rest rfl
  · rintro ⟨some, down, same⟩
    obtain ⟨rfl, rfl⟩ := Route.mk.inj same
    rw [if_pos ⟨rfl, List.prefix_append _ _⟩, List.drop_left]
    split
    · exact absurd rfl some
    · exact absurd rfl down
    · rfl

theorem mem_below_iff : names ∈ files.below route ↔ files.StandsBelow route names := by
  rw [below, List.mem_mergeSort, List.mem_filterMap]
  constructor
  · rintro ⟨⟨inner, entry⟩, given, within⟩
    obtain ⟨some, down, rfl⟩ := (inside?_eq_some_iff inner).1 within
    exact ⟨some, down, entry, given⟩
  · rintro ⟨some, down, entry, given⟩
    exact ⟨_, given, (inside?_eq_some_iff _).2 ⟨some, down, rfl⟩⟩

theorem mem_names_iff (name : String) :
    name ∈ files.names route ↔ files.StandsBelow route [name] := by
  rw [FileTree.names, List.mem_filterMap, ← mem_below_iff]
  constructor
  · rintro ⟨names, below, single⟩
    split at single
    · cases single
      exact below
    · cases single
  · intro below
    exact ⟨_, below, rfl⟩

theorem StandsBelow.not_mem (named : files.AllNamed) (h : files.StandsBelow route names)
    {name : String} (given : name ∈ names) : '/' ∉ name.toList := by
  obtain ⟨entry, stands⟩ := h.exists_entry
  exact named _ stands name (List.mem_append_right _ given)

end FileTree

/-! ### Paths -/

namespace Glob

open Pattern (Fits)

/-- A component stands for a name. -/
inductive Component.StandsFor : Component → String → Prop
  | literal (name : String) : StandsFor (.literal name) name
  | anyDirectories (name : String) : StandsFor .anyDirectories name
  | wild {pieces : List Wildcard} {name : String} (fits : Fits pieces name.toList) :
    StandsFor (.wild pieces) name

/-- The directory itself and the one above it. -/
def IsDots (name : String) : Prop := name = "." ∨ name = ".."

/-- Components lead from a path to another one. -/
inductive Leads (files : FileTree) : String → List Component → String → Prop
  | nil (path : String) : Leads files path [] path
  | literal {path name found : String} {rest : List Component} (named : ¬ IsDots name)
    (there : files.contains (behind path name) = true)
    (onward : Leads files (behind path name) rest found) :
    Leads files path (.literal name :: rest) found
  | literalDots {path name found : String} {rest : List Component} (dots : IsDots name)
    (directory : files.find? path = some .directory)
    (onward : Leads files (behind path name) rest found) :
    Leads files path (.literal name :: rest) found
  /-- A wildcard finds the entries of a directory by their names. -/
  | wild {path name found : String} {pieces : List Wildcard} {rest : List Component} {route : Route}
    (leads : files.locate path = .ok route) (stands : files.StandsBelow route [name])
    (fits : Fits pieces name.toList) (onward : Leads files (behind path name) rest found) :
    Leads files path (.wild pieces :: rest) found
  /-- Dots are found by a pattern that begins with a dot. -/
  | wildDots {path name found : String} {pieces : List Wildcard} {rest : List Component}
    (dots : IsDots name) (fits : Fits (.char '.' :: pieces) name.toList)
    (directory : files.find? path = some .directory)
    (onward : Leads files (Path.join path name) rest found) :
    Leads files path (.wild (.char '.' :: pieces) :: rest) found
  /-- At the end of a pattern, directories on the way are the directories at any depth. -/
  | directories {path : String} {route : Route} {names : List String}
    (leads : files.locate path = .ok route) (stands : files.StandsBelow route names)
    (directory : files.find? (names.foldl behind path) = some .directory) :
    Leads files path [.anyDirectories] (names.foldl behind path)
  /-- Before a component, directories on the way lead to the entries at any depth whose name it
  stands for. -/
  | atAnyDepth {path name found : String} {component : Component} {rest : List Component}
    {route : Route} {above : List String} (leads : files.locate path = .ok route)
    (stands : files.StandsBelow route (above ++ [name])) (fits : component.StandsFor name)
    (onward : Leads files (behind (above.foldl behind path) name) rest found) :
    Leads files path (.anyDirectories :: component :: rest) found

variable {files : FileTree} {path : String}

theorem isDirectory_iff : isDirectory files path = true ↔ files.find? path = some .directory := by
  rw [isDirectory, beq_iff_eq]

theorem Component.fits_iff (component : Component) (name : String) :
    component.fits name = true ↔ component.StandsFor name := by
  cases component with
  | literal s =>
    rw [fits, beq_iff_eq]
    constructor
    · rintro rfl
      exact .literal s
    · rintro ⟨⟩
      rfl
  | anyDirectories => exact iff_of_true rfl (.anyDirectories name)
  | wild pieces =>
    rw [fits, Pattern.fits_iff]
    refine ⟨.wild, ?_⟩
    rintro ⟨⟩
    assumption

/-- The name behind a path is its last component. -/
theorem lastName_behind (path : String) {name : String} (h : '/' ∉ name.toList) :
    lastName (behind path name) = name := by
  unfold lastName behind
  split_ifs
  · simp [Path.parts, Path.split_of_not_mem h]
  · obtain ⟨above, parts_eq⟩ := Path.exists_parts_join path h
    simp [parts_eq]

theorem mem_children_iff (p : String) :
    p ∈ children files path ↔
      ∃ route name, files.locate path = .ok route ∧ files.StandsBelow route [name] ∧
        behind path name = p := by
  unfold children
  cases files.locate path with
  | error e => simp
  | ok route => simp [FileTree.mem_names_iff]

theorem mem_descendants_iff (p : String) :
    p ∈ descendants files path ↔
      ∃ route names, files.locate path = .ok route ∧ files.StandsBelow route names ∧
        names.foldl behind path = p := by
  unfold descendants
  cases files.locate path with
  | error e => simp
  | ok route => simp [FileTree.mem_below_iff]

theorem mem_dots_iff (pieces : List Wildcard) (name : String) :
    name ∈ dots (.wild pieces) ↔
      IsDots name ∧ Fits pieces name.toList ∧ ∃ rest, pieces = .char '.' :: rest := by
  unfold dots
  split
  · rename_i rest same
    cases same
    simp [Pattern.fits_iff, IsDots, or_comm]
  · rename_i other
    simp only [List.not_mem_nil, false_iff]
    rintro ⟨-, -, rest, rfl⟩
    exact other rest rfl

/-- The paths behind a path that components find are those that they lead to. -/
theorem mem_matching_iff (named : files.AllNamed) (path : String) (components : List Component)
    (found : String) :
    found ∈ matching files path components ↔ Leads files path components found := by
  fun_induction matching files path components with
  | case1 path =>
    rw [List.mem_singleton]
    constructor
    · rintro rfl
      exact .nil _
    · rintro ⟨⟩
      rfl
  | case2 path name rest next exists? there ih =>
    rw [ih]
    constructor
    · intro onward
      by_cases dots : IsDots name
      · exact .literalDots dots (isDirectory_iff.1 ((if_pos dots).symm.trans there)) onward
      · exact .literal dots ((if_neg dots).symm.trans there) onward
    · intro h
      cases h with
      | literal _ _ onward => exact onward
      | literalDots _ _ onward => exact onward
  | case3 path name rest next exists? missing =>
    refine iff_of_false List.not_mem_nil fun h => missing ?_
    cases h with
    | literal named there _ => exact (if_neg named).trans there
    | literalDots dots directory _ => exact (if_pos dots).trans (isDirectory_iff.2 directory)
  | case4 path pieces rest component ihDots ih =>
    -- dots are looked for apart from the entries, which do not include them
    rw [List.mem_append]
    constructor
    · rintro (dotted | listed)
      · split_ifs at dotted with directory
        · obtain ⟨name, given, onward⟩ := List.mem_flatMap.1 dotted
          obtain ⟨dots, fits, pieces, rfl⟩ := (mem_dots_iff _ _).1 given
          exact .wildDots dots fits (isDirectory_iff.1 directory) ((ihDots name).1 onward)
        · cases dotted
      · obtain ⟨p, given, onward⟩ := List.mem_flatMap.1 listed
        obtain ⟨child, fits⟩ := List.mem_filter.1 given
        obtain ⟨route, name, leads, stands, rfl⟩ := (mem_children_iff p).1 child
        rw [lastName_behind path (stands.not_mem named List.mem_cons_self)] at fits
        exact .wild leads stands ((Pattern.fits_iff _ _).1 fits) ((ih _).1 onward)
    · intro h
      cases h with
      | wild leads stands fits onward =>
        have child := (mem_children_iff _).2 ⟨_, _, leads, stands, rfl⟩
        refine .inr (List.mem_flatMap.2 ⟨_, List.mem_filter.2 ⟨child, ?_⟩, (ih _).2 onward⟩)
        rw [lastName_behind path (stands.not_mem named List.mem_cons_self)]
        exact (Pattern.fits_iff _ _).2 fits
      | wildDots dots fits directory onward =>
        rw [if_pos (isDirectory_iff.2 directory)]
        have given := (mem_dots_iff _ _).2 ⟨dots, fits, _, rfl⟩
        exact .inl (List.mem_flatMap.2 ⟨_, given, (ihDots _).2 onward⟩)
  | case5 path =>
    rw [List.mem_filter, mem_descendants_iff, isDirectory_iff]
    constructor
    · rintro ⟨⟨route, names, leads, stands, rfl⟩, directory⟩
      exact .directories leads stands directory
    · intro h
      cases h with
      | directories leads stands directory =>
        exact ⟨⟨_, _, leads, stands, rfl⟩, directory⟩
  | case6 path component rest ih =>
    rw [List.mem_flatMap]
    constructor
    · rintro ⟨p, given, onward⟩
      obtain ⟨descendant, fits⟩ := List.mem_filter.1 given
      obtain ⟨route, names, leads, stands, rfl⟩ := (mem_descendants_iff p).1 descendant
      -- only the last of the names is compared with the component
      obtain ⟨above, name, rfl⟩ := (List.eq_nil_or_concat' names).resolve_left stands.ne_nil
      have last := stands.not_mem named (List.mem_append_right _ List.mem_cons_self)
      rw [List.foldl_concat] at fits onward
      rw [lastName_behind _ last] at fits
      exact .atAnyDepth leads stands ((component.fits_iff _).1 fits) ((ih _).1 onward)
    · intro h
      cases h with
      | @atAnyDepth _ name _ _ _ _ above leads stands fits onward =>
        have last := stands.not_mem named (List.mem_append_right _ List.mem_cons_self)
        have descendant := (mem_descendants_iff _).2 ⟨_, _, leads, stands, rfl⟩
        rw [List.foldl_concat] at descendant
        refine ⟨_, List.mem_filter.2 ⟨descendant, ?_⟩, (ih _).2 onward⟩
        rw [lastName_behind _ last]
        exact (component.fits_iff _).2 fits

/-- **The paths that a pattern finds** are those that its components lead to, from the root of all
files or from the working directory, and only the directories among them for a pattern that ends in
a slash. -/
theorem PathPattern.mem_paths_iff (named : files.AllNamed) (pattern : PathPattern)
    (found : String) :
    found ∈ pattern.paths files ↔
      Leads files (if pattern.absolute then "/" else ".") pattern.components found ∧
        (pattern.directoriesOnly = true → files.find? found = some .directory) := by
  rw [← mem_matching_iff named]
  unfold paths
  cases pattern.directoriesOnly with
  | false => simp
  | true => simp [isDirectory_iff]

/-- Directories on the way may be none at all. -/
example :
    let files : FileTree :=
      ⟨[(⟨false, ["a"]⟩, .directory), (⟨false, ["a", "x.json"]⟩, .file ""),
        (⟨false, ["y.json"]⟩, .file ""), (⟨false, ["z.yaml"]⟩, .file "")]⟩
    look files "**/*.json" = .ok [.ok "a/x.json", .ok "y.json"] := by
  cbv

end Glob

end CallToAction
