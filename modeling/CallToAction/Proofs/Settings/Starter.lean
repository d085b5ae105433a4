import CallToAction.Proofs.FileTree.Keeping
import CallToAction.Settings.Store
import Mathlib.Logic.Relation

/-!
# Starting with settings

The settings to begin with are put at a path where nothing stands yet, or by force in place of what
stands there.  Their text can be loaded again at the path if the path ends in a name; if parts that
lead nowhere stand behind its name, it does not lead to the file that was written.

Whether something stands at a path is asked before its directory is made, and of the path as it is
written.  So a file is replaced without force where the path leads to it only afterwards, or only
up to parts behind its name.  `Direct` paths are safe from that.

* `ofYaml?_starter`, `complaints_started`: the settings to begin with hold;
* `putStarter_cases`: what can become of an attempt;
* `read_put`, `not_contains_put`: what is found at the path afterwards;
* `keeps_of_direct`: nothing is replaced without force at a direct path;
* `writeStarter_outcome`: the whole, for one attempt and for any number of them.
-/

namespace CallToAction.Settings

open FileTree (Keeps Grows Accepts)
open CallToAction.Path (EndsInName)

/-! ### The settings to begin with -/

/-- What the settings to begin with say. -/
def started : Settings where
  output := ⟨some .text, some .auto, some 5⟩
  defaults := some (.ofList [(.largestOther, 8000), (.mobileWidth, 200), (.mobileHeight, 48)])

theorem ofYaml?_starter : ofYaml? starter = some started := by
  -- the characters of short texts are found much faster than those of one long text
  unfold ofYaml? Text.allBlank Yaml.read? Yaml.readable starter
  simp only [String.toList_append]
  decide +kernel

theorem complaints_started : started.complaints = [] := by
  decide +kernel

/-! ### Attempts -/

variable {files made : FileTree} {path : String} {force : Bool} {route : Route}

theorem makeHome_grows (files : FileTree) (path : String) :
    (∀ made, makeHome files path = .ok made → Grows files made) ∧
      ∀ left e, makeHome files path = .error (left, e) → Grows files left := by
  obtain ⟨ok, error⟩ := FileTree.makeAlong_grows files (FileTree.start (Path.parent path)) false
    (Path.parts (Path.parent path))
  unfold makeHome FileTree.makeDirectories
  dsimp only
  split_ifs with there
  · exact ⟨fun made h => by cases h; exact .refl _, fun left e h => (nomatch h)⟩
  · split
    · rename_i made done
      exact ⟨fun made h => by cases h; exact ok _ done, fun left e h => (nomatch h)⟩
    · rename_i unmade failed
      exact ⟨fun made h => (nomatch h), fun left e h => by cases h; exact error _ failed⟩

/-- An attempt is refused, fails with some directories made, or puts the text at the path. -/
theorem putStarter_cases (files : FileTree) (path : String) (force : Bool) :
    (files.contains path = true ∧ force = false ∧
        putStarter files path force = (files, .error (.exists path))) ∨
      (files.contains path = false ∨ force = true) ∧
        ((∃ left e, Grows files left ∧ putStarter files path force = (left, .error e)) ∨
          ∃ made route, makeHome files path = .ok made ∧ made.Accepts path route ∧
            putStarter files path force = (made.put route (.file starter), .ok path)) := by
  obtain ⟨ok, error⟩ := makeHome_grows files path
  unfold putStarter
  split_ifs with refused
  · rw [Bool.and_eq_true, Bool.not_eq_true'] at refused
    exact .inl ⟨refused.1, refused.2, rfl⟩
  · have allowed : files.contains path = false ∨ force = true := by
      cases there : files.contains path with
      | false => exact .inl rfl
      | true => exact .inr (by simpa [there] using refused)
    refine .inr ⟨allowed, ?_⟩
    cases home : makeHome files path with
    | error failure => exact .inl ⟨failure.1, failure.2, error _ _ home, rfl⟩
    | ok made =>
      have grows := ok made home
      dsimp only
      cases written : made.replace path starter with
      | ok after =>
        obtain ⟨route, accepts, rfl⟩ := (FileTree.replace_eq_ok_iff _ _).1 written
        exact .inr ⟨made, route, rfl, accepts, rfl⟩
      | error e =>
        cases e with
        | opening cause => exact .inl ⟨made, _, grows, rfl⟩
        | saving cause => exact .inl ⟨made, _, grows, rfl⟩

theorem keeps_of_error {e : StarterError} (failed : (putStarter files path force).2 = .error e) :
    files.Keeps (putStarter files path force).1 := by
  rcases putStarter_cases files path force with
    ⟨-, -, refused⟩ | ⟨-, ⟨left, e', grows, failed'⟩ | ⟨made, route, -, -, done⟩⟩
  · rw [refused]
    exact .refl _
  · rw [failed']
    exact grows.keeps
  · rw [done] at failed
    cases failed

/-- An attempt that succeeds puts the text at the path. -/
theorem exists_put_of_ok {written : String}
    (done : (putStarter files path force).2 = .ok written) :
    written = path ∧ ∃ made route, makeHome files path = .ok made ∧ made.Accepts path route ∧
      putStarter files path force = (made.put route (.file starter), .ok path) := by
  rcases putStarter_cases files path force with
    ⟨-, -, refused⟩ | ⟨-, ⟨left, e, -, failed⟩ | ⟨made, route, home, accepts, put⟩⟩
  · rw [refused] at done
    cases done
  · rw [failed] at done
    cases done
  · rw [put] at done
    cases done
    exact ⟨rfl, made, route, home, accepts, put⟩

/-! ### Finding the text again -/

variable {text : String}

/-- A text that was put at a path that ends in a name is read at the path. -/
theorem locate_put (ends : EndsInName path) (accepts : made.Accepts path route) :
    (made.put route (.file text)).locate path = .ok route := by
  obtain ⟨name, above, named, home, rfl, free⟩ := accepts
  have leads := (FileTree.locate_of_endsInName named ends).2 ⟨above, home, rfl⟩
  refine FileTree.locate_mono (fun other directory => ?_) leads
  have : other ≠ above.child name := by
    rintro rfl
    exact free directory
  rw [FileTree.get?_put_of_ne this, directory]

theorem read_put (ends : EndsInName path) (accepts : made.Accepts path route) :
    (made.put route (.file text)).read path = .ok text :=
  (FileTree.read_eq_ok_iff _ _).2 ⟨route, locate_put ends accepts, (accepts.get?_put text).1⟩

/-- A path with parts behind its name does not lead to a text that was put there. -/
theorem not_contains_put (ends : ¬ EndsInName path) (accepts : made.Accepts path route) :
    (made.put route (.file text)).contains path = false := by
  obtain ⟨here, -⟩ := accepts.get?_put text
  obtain ⟨name, above, named, home, rfl, free⟩ := accepts
  obtain ⟨dirs, idles, splits⟩ := Path.exists_splits named
  rw [splits.endsInName_iff] at ends
  obtain ⟨leads, directory⟩ := (FileTree.home_eq_ok_iff splits).1 home
  have stay (other : Route) (found : made.get? other = some .directory) :
      (made.put (above.child name) (.file text)).get? other = some .directory := by
    rw [FileTree.get?_put_of_ne, found]
    rintro rfl
    exact free found
  have nowhere (r : Route) : (made.put (above.child name) (.file text)).locate path ≠ .ok r := by
    intro found
    obtain ⟨above', home', rest⟩ := (FileTree.locate_eq_ok_iff splits).1 found
    obtain ⟨leads', -⟩ := (FileTree.home_eq_ok_iff splits).1 home'
    cases leads'.symm.trans (FileTree.follow_mono stay leads)
    obtain ⟨idle, idles, rfl⟩ := List.exists_cons_of_ne_nil ends
    -- the first part behind the name asks for a directory where the text stands
    cases here.symm.trans ((FileTree.follow_cons_eq_ok_iff _ _).1 rest).1
  unfold FileTree.contains FileTree.find?
  split
  · rename_i r found
    exact absurd found (nowhere r)
  · rfl

/-- Settings are loaded where their text is read. -/
theorem load_of_read {home path : Option String} {target : String} {held : Settings}
    (kept : place home path = some target) (found : files.read target = .ok text)
    (spelled : ofYaml? text = some held) : load files home path = .ok held := by
  obtain ⟨route, leads, here⟩ := (FileTree.read_eq_ok_iff _ _).1 found
  have there := FileTree.contains_of_locate leads (by simp [here])
  simp only [load, kept, there, if_true, readFile, found, spelled]

theorem writeStarter_of_place {home path : Option String} {target : String}
    (kept : place home path = some target) (force : Bool) :
    writeStarter files home path force = putStarter files target force := by
  rw [writeStarter, kept]

theorem writeStarter_of_homeless {home path : Option String} (homeless : place home path = none)
    (force : Bool) : writeStarter files home path force = (files, .error .homeless) := by
  rw [writeStarter, homeless]

/-! ### Nothing is replaced without force -/

/-- A path leads where it seems to: it ends in a name, and it leads upwards only within directories
that exist. -/
def Direct (files : FileTree) (path : String) : Prop :=
  EndsInName path ∧ (".." ∈ Path.parts path → files.contains (Path.parent path) = true)

instance (files : FileTree) (path : String) : Decidable (Direct files path) :=
  inferInstanceAs (Decidable (_ ∧ _))

theorem makeHome_of_contains (h : files.contains (Path.parent path) = true) :
    makeHome files path = .ok files := by
  unfold makeHome
  exact if_pos (.inr h)

/-- A direct path at which nothing stands does not lead to a file once its directory is made. -/
theorem unread_of_direct (direct : Direct files path) (free : files.contains path = false)
    (home : makeHome files path = .ok made) (accepts : made.Accepts path route) {q : String}
    (leads : files.locate q = .ok route) (t : String) : files.get? route ≠ some (.file t) := by
  intro here
  obtain ⟨ends, up⟩ := direct
  obtain ⟨name, above, named, found, rfl, -⟩ := accepts
  have home_files : files.home path = .ok above := by
    by_cases upwards : ".." ∈ Path.parts path
    · rw [makeHome_of_contains (up upwards)] at home
      cases home
      exact found
    · obtain ⟨dirs, idles, splits⟩ := Path.exists_splits named
      rw [FileTree.home_eq_ok_iff splits] at found ⊢
      have down : ".." ∉ dirs := by
        intro h
        exact upwards (splits.parts_eq ▸ List.mem_append_left _ h)
      obtain rfl := FileTree.eq_along_of_follow found.1
      -- the file can be read, so it lies in directories that there were before
      have directories (names : List String)
          (h : names <+: (FileTree.along (FileTree.start path) dirs).names) :
          files.get? ⟨(FileTree.start path).absolute, names⟩ = some .directory := by
        rw [← FileTree.absolute_along (FileTree.start path) dirs]
        refine FileTree.reached_of_locate leads names (h.trans (List.prefix_append _ _)) ?_
        intro same
        have := (same ▸ h).length_le
        simp only [Route.child, List.length_append, List.length_singleton] at this
        omega
      have home_directory := directories _ (List.prefix_refl _)
      rw [← FileTree.absolute_along (FileTree.start path) dirs] at home_directory
      exact ⟨FileTree.follow_of_directories down directories, home_directory⟩
  have there := FileTree.contains_of_locate
    ((FileTree.locate_of_endsInName named ends).2 ⟨above, home_files, rfl⟩) (by simp [here])
  cases free.symm.trans there

/-- Nothing is replaced without force at a direct path. -/
theorem keeps_of_direct (direct : Direct files path) :
    files.Keeps (putStarter files path false).1 := by
  rcases putStarter_cases files path false with ⟨-, -, refused⟩ | ⟨allowed, failed | written⟩
  · rw [refused]
    exact .refl _
  · obtain ⟨left, e, grows, failed⟩ := failed
    rw [failed]
    exact grows.keeps
  · obtain ⟨made, route, home, accepts, written⟩ := written
    have free : files.contains path = false := by simpa using allowed
    have grows := (makeHome_grows files path).1 made home
    have unoccupied : made.get? route ≠ some .directory := by
      obtain ⟨name, above, -, -, rfl, unoccupied⟩ := accepts
      exact unoccupied
    rw [written]
    exact FileTree.keeps_put grows unoccupied starter fun q leads t =>
      unread_of_direct direct free home accepts leads t

/-! ### Runs -/

/-- An attempt without force at a direct path, or an attempt to load settings, which leaves the
files alone. -/
inductive Step (home : Option String) : FileTree → FileTree → Prop
  | init {files : FileTree} {path : Option String}
    (direct : ∀ target, place home path = some target → Direct files target) :
    Step home files (writeStarter files home path false).1
  | load {files : FileTree} {path : Option String} {found : Except LoadError Settings}
    (loaded : load files home path = found) : Step home files files

theorem Step.keeps {home : Option String} {before after : FileTree} (h : Step home before after) :
    before.Keeps after := by
  cases h with
  | @init path direct =>
    cases kept : place home path with
    | none =>
      rw [writeStarter_of_homeless kept]
      exact .refl _
    | some target =>
      rw [writeStarter_of_place kept]
      exact keeps_of_direct (direct target kept)
  | load => exact .refl _

/-- Attempts without force at direct paths keep all files. -/
theorem keeps_of_steps {home : Option String} {before after : FileTree}
    (h : Relation.ReflTransGen (Step home) before after) : before.Keeps after := by
  induction h with
  | refl => exact .refl _
  | tail _ step ih => exact ih.trans step.keeps

/-- **An attempt to start with settings fails and keeps all files, or puts their text at the path.**
It fails where there is no path, and where something stands at the path and is not replaced by
force.  If it succeeds, the text stands at one route and no other file has changed, and the settings
are loaded from the path and hold, provided that the path ends in a name; else nothing is found at
it.  Attempts without force at direct paths keep all files, however many there are. -/
theorem writeStarter_outcome (files : FileTree) (home path : Option String) (force : Bool) :
    let after := (writeStarter files home path force).1
    let result := (writeStarter files home path force).2
    (∀ e, result = .error e → files.Keeps after) ∧
      (place home path = none → result = .error .homeless) ∧
      (∀ target, place home path = some target →
        (files.contains target = true → force = false → result = .error (.exists target)) ∧
        ∀ written, result = .ok written → written = target ∧
          (∃ route, after.get? route = some (.file starter) ∧
            (EndsInName target → after.locate target = .ok route) ∧
            ∀ other, other ≠ route → ∀ text,
              after.get? other = some (.file text) ↔ files.get? other = some (.file text)) ∧
          (EndsInName target →
            ∃ held, load after home path = .ok held ∧ held.complaints = []) ∧
          (¬ EndsInName target → load after home (some target) = .error (.missing target))) ∧
      ∀ before last, Relation.ReflTransGen (Step home) before last → before.Keeps last := by
  intro after result
  refine ⟨?_, fun homeless => ?_, fun target kept => ⟨fun there unforced => ?_,
    fun written done => ?_⟩, fun before last => keeps_of_steps⟩
  · simp only [after, result]
    cases kept : place home path with
    | none =>
      rw [writeStarter_of_homeless kept]
      exact fun e _ => .refl _
    | some target =>
      rw [writeStarter_of_place kept]
      exact fun e failed => keeps_of_error failed
  · simp only [result, writeStarter_of_homeless homeless]
  · simp only [result, writeStarter_of_place kept, putStarter, there, unforced]
    rfl
  · simp only [result, writeStarter_of_place kept] at done
    obtain ⟨rfl, made, route, home_eq, accepts, put⟩ := exists_put_of_ok done
    have after_eq : after = made.put route (.file starter) := by
      simp only [after, writeStarter_of_place kept]
      exact congrArg Prod.fst put
    have grows := (makeHome_grows files _).1 made home_eq
    obtain ⟨here, others⟩ := accepts.get?_put starter
    rw [after_eq]
    refine ⟨rfl, ⟨route, here, fun ends => locate_put ends accepts, fun other ne text => ?_⟩,
      fun ends => ?_, fun behind => ?_⟩
    · rw [others other ne]
      exact grows.get?_file_iff text
    · exact ⟨started, load_of_read kept (read_put ends accepts) ofYaml?_starter,
        complaints_started⟩
    · have given : place home (some written) = some written := rfl
      simp only [load, given, not_contains_put behind accepts, Bool.false_eq_true, if_false,
        Option.isSome_some, if_true]

/-- A file is replaced without force where its path leads through a directory that is made on the
way, and where a slash stands behind its name; in the second case nothing is found at the path
afterwards. -/
theorem writeStarter_replaces_unforced :
    let files : FileTree := ⟨[(⟨false, ["x"]⟩, .file "output: \x7b\x7d\n")]⟩
    files.read "x" = .ok "output: \x7b\x7d\n" ∧
      (writeStarter files "home" (some "m/../x") false).2 = .ok "m/../x" ∧
      (writeStarter files "home" (some "m/../x") false).1.read "x" = .ok starter ∧
      (writeStarter files "home" (some "x/") false).2 = .ok "x/" ∧
      (writeStarter files "home" (some "x/") false).1.read "x" = .ok starter ∧
      load (writeStarter files "home" (some "x/") false).1 "home" (some "x/") =
        .error (.missing "x/") := by
  intro files
  refine ⟨?_, ?_, ?_, ?_, ?_, ?_⟩ <;> rfl

end CallToAction.Settings
