import CallToAction.Proofs.FileTree.Locating
import Mathlib.Data.List.Infix

/-!
# Keeping files

A file is kept if it can be read as before at every path at which it was read.  Making directories
keeps all files.  Putting a text at a route keeps those that stand at other routes, and a file that
can be read at all stands in directories that can be entered.

* `Grows`: directories are added and nothing else is changed;
* `makeAlong_grows`: making directories, also where it fails;
* `Reached.of_follow`: whatever is reached lies in directories;
* `follow_of_directories`: without parts that lead upwards it is reached through these;
* `keeps_put`: putting a text where no file was read keeps all files.
-/

namespace CallToAction.FileTree

open CallToAction.Path (IsIdle EndsInName)

variable {files before after last : FileTree} {route r : Route}

/-- Every text that could be read at a path still is what is read there. -/
def Keeps (before after : FileTree) : Prop :=
  ∀ path text, before.read path = .ok text → after.read path = .ok text

theorem Keeps.refl (files : FileTree) : Keeps files files := fun _ _ h => h

theorem Keeps.trans (h : Keeps before after) (h' : Keeps after last) : Keeps before last :=
  fun path text found => h' path text (h path text found)

theorem read_eq_ok_iff (path text : String) :
    files.read path = .ok text ↔
      ∃ route, files.locate path = .ok route ∧ files.get? route = some (.file text) := by
  unfold read
  cases files.locate path with
  | error e => simp
  | ok route =>
    simp only [Except.ok.injEq, exists_eq_left']
    split <;> rename_i found <;> simp [found]

theorem contains_of_locate {path : String} (leads : files.locate path = .ok route)
    (some : (files.get? route).isSome) : files.contains path = true := by
  rw [contains, find?, leads]
  exact some

/-! ### Adding directories -/

/-- Directories are added, and nothing else is changed. -/
def Grows (before after : FileTree) : Prop :=
  ∀ route, after.get? route = before.get? route ∨
    before.get? route = none ∧ after.get? route = some .directory

theorem Grows.refl (files : FileTree) : Grows files files := fun _ => .inl rfl

theorem Grows.trans (h : Grows before after) (h' : Grows after last) : Grows before last := by
  intro route
  rcases h route with same | ⟨new, made⟩
  · rw [← same]
    exact h' route
  · rcases h' route with same | ⟨new', -⟩
    · exact .inr ⟨new, same.trans made⟩
    · cases new'.symm.trans made

theorem Grows.get?_directory (h : Grows before after)
    (found : before.get? route = some .directory) : after.get? route = some .directory := by
  rcases h route with same | ⟨new, -⟩
  · rw [same, found]
  · cases new.symm.trans found

theorem Grows.get?_file_iff (h : Grows before after) (text : String) :
    after.get? route = some (.file text) ↔ before.get? route = some (.file text) := by
  rcases h route with same | ⟨new, made⟩
  · rw [same]
  · simp [new, made]

theorem grows_put (new : files.get? route = none) : Grows files (files.put route .directory) := by
  intro other
  by_cases here : other = route
  · subst here
    have unoccupied : files.get? other ≠ some .directory := by simp [new]
    exact .inr ⟨new, get?_put_self (isRoot_of_get?_ne unoccupied)⟩
  · exact .inl (get?_put_of_ne here)

/-- Making directories adds directories, also where it fails. -/
theorem makeAlong_grows (files : FileTree) (route : Route) (made : Bool) (parts : List String) :
    (∀ after, files.makeAlong route made parts = .ok after → Grows files after) ∧
      ∀ unmade, files.makeAlong route made parts = .error unmade → Grows files unmade.files := by
  induction parts generalizing files route made with
  | nil => exact ⟨fun after h => by cases h; exact .refl _, fun unmade h => by cases h⟩
  | cons part parts ih =>
    simp only [makeAlong]
    split
    · exact ih _ _ _
    · exact ⟨fun after h => (nomatch h), fun unmade h => by cases h; exact .refl _⟩
    · rename_i new
      have first := grows_put new
      obtain ⟨ok, error⟩ := ih (files.put (step route part) .directory) (step route part) true
      exact ⟨fun after h => first.trans (ok after h), fun unmade h => first.trans (error unmade h)⟩

/-- A path leads where it led as long as directories stay. -/
theorem follow_mono
    (stay : ∀ route, before.get? route = some .directory → after.get? route = some .directory)
    {parts : List String} (h : before.follow route parts = .ok r) :
    after.follow route parts = .ok r := by
  induction parts generalizing route with
  | nil => exact h
  | cons part parts ih =>
    obtain ⟨here, rest⟩ := (follow_cons_eq_ok_iff _ _).1 h
    exact (follow_cons_eq_ok_iff _ _).2 ⟨stay _ here, ih rest⟩

theorem locate_mono
    (stay : ∀ route, before.get? route = some .directory → after.get? route = some .directory)
    {path : String} (h : before.locate path = .ok r) : after.locate path = .ok r := by
  unfold locate at h ⊢
  split_ifs at h ⊢ with empty
  exact follow_mono stay h

theorem Grows.keeps (h : Grows before after) : Keeps before after := by
  intro path text found
  obtain ⟨route, leads, here⟩ := (read_eq_ok_iff _ _).1 found
  exact (read_eq_ok_iff _ _).2
    ⟨route, locate_mono (fun _ => h.get?_directory) leads, (h.get?_file_iff _).2 here⟩

/-! ### What is reached -/

/-- A route is reached through directories. -/
def Reached (files : FileTree) (route : Route) : Prop :=
  ∀ names, names <+: route.names → names ≠ route.names →
    files.get? ⟨route.absolute, names⟩ = some .directory

theorem Reached.step (h : Reached files route) (here : files.get? route = some .directory)
    (part : String) : Reached files (step route part) := by
  have child (name : String) : Reached files (route.child name) := by
    intro names above proper
    rcases List.prefix_concat_iff.1 above with same | above
    · exact absurd same proper
    · by_cases same : names = route.names
      · subst same
        exact here
      · exact h names above same
  unfold FileTree.step
  split_ifs
  · exact h
  · exact h
  · exact child _
  · intro names above proper
    have := above.trans (List.dropLast_prefix route.names)
    refine h names this ?_
    rintro rfl
    exact proper (above.eq_of_length_le (List.dropLast_prefix route.names).length_le)
  · exact child _

/-- Whatever is reached lies in directories. -/
theorem Reached.of_follow {parts : List String} (h : Reached files route)
    (leads : files.follow route parts = .ok r) : Reached files r := by
  induction parts generalizing route with
  | nil =>
    cases leads
    exact h
  | cons part parts ih =>
    obtain ⟨here, rest⟩ := (follow_cons_eq_ok_iff _ _).1 leads
    exact ih (h.step here part) rest

theorem reached_of_locate {path : String} (h : files.locate path = .ok r) : Reached files r := by
  unfold locate at h
  split_ifs at h
  have start_reached : Reached files (start path) := fun names above proper =>
    absurd (List.prefix_nil.1 above) proper
  exact start_reached.of_follow h

/-- The route that parts lead along. -/
def along (route : Route) (parts : List String) : Route := parts.foldl step route

theorem eq_along_of_follow {parts : List String} (h : files.follow route parts = .ok r) :
    r = along route parts := by
  induction parts generalizing route with
  | nil =>
    cases h
    rfl
  | cons part parts ih => exact ih ((follow_cons_eq_ok_iff _ _).1 h).2

theorem absolute_step (route : Route) (part : String) :
    (FileTree.step route part).absolute = route.absolute := by
  unfold FileTree.step
  split_ifs <;> rfl

theorem absolute_along (route : Route) (parts : List String) :
    (along route parts).absolute = route.absolute := by
  induction parts generalizing route with
  | nil => rfl
  | cons part parts ih => exact (ih (FileTree.step route part)).trans (absolute_step route part)

/-- Parts that do not lead upwards lead further down. -/
theorem names_prefix_along {parts : List String} (down : ".." ∉ parts) (route : Route) :
    route.names <+: (along route parts).names := by
  induction parts generalizing route with
  | nil => exact List.prefix_refl _
  | cons part parts ih =>
    rw [List.mem_cons, not_or] at down
    refine List.IsPrefix.trans ?_ (ih down.2 (FileTree.step route part))
    unfold FileTree.step
    rw [if_neg (Ne.symm down.1)]
    split_ifs
    · exact List.prefix_refl _
    · exact List.prefix_append _ _

/-- Without parts that lead upwards a route is reached through the directories above it. -/
theorem follow_of_directories {parts : List String} (down : ".." ∉ parts)
    (h : ∀ names, names <+: (along route parts).names →
      files.get? ⟨route.absolute, names⟩ = some .directory) :
    files.follow route parts = .ok (along route parts) := by
  induction parts generalizing route with
  | nil => rfl
  | cons part parts ih =>
    refine (follow_cons_eq_ok_iff _ _).2 ⟨h _ (names_prefix_along down route), ?_⟩
    rw [List.mem_cons, not_or] at down
    refine ih down.2 fun names above => ?_
    rw [absolute_step]
    exact h names above

/-! ### Putting a text -/

/-- Adding directories and then putting a text where no file was read keeps all files. -/
theorem keeps_put (grows : Grows before after) (free : after.get? route ≠ some .directory)
    (text : String)
    (unread : ∀ path, before.locate path = .ok route → ∀ t, before.get? route ≠ some (.file t)) :
    Keeps before (after.put route (.file text)) := by
  intro path t found
  obtain ⟨r, leads, here⟩ := (read_eq_ok_iff _ _).1 found
  have other : r ≠ route := by
    rintro rfl
    exact unread path leads t here
  refine (read_eq_ok_iff _ _).2 ⟨r, locate_mono (fun r' directory => ?_) leads, ?_⟩
  · have directory' := grows.get?_directory directory
    rw [get?_put_of_ne, directory']
    rintro rfl
    exact free directory'
  · rw [get?_put_of_ne other, grows.get?_file_iff, here]

end CallToAction.FileTree
