import CallToAction.FileTree.Basic

/-!
# Writing texts

Whether a text can be put at a path depends on the path and on the files, and never on the text.  A
text that is put there stands at the route of the path afterwards, and nothing else changes.

* `replace_eq_ok_iff`: where texts can be put;
* `Accepts.get?_put`: what stands where after a text was put at a path.
-/

namespace CallToAction.FileTree

/-- A text can be put at a path, where it stands at a route: the path ends in a name within a
directory, and no directory has that name. -/
def Accepts (files : FileTree) (path : String) (route : Route) : Prop :=
  ∃ name above, Path.name? path = some name ∧ files.home path = .ok above ∧
    route = above.child name ∧ files.get? route ≠ some .directory

variable {files : FileTree} {path : String} {route : Route}

theorem isRoot_of_get?_ne (h : files.get? route ≠ some .directory) : isRoot route = false := by
  cases root : isRoot route with
  | false => rfl
  | true => exact absurd (by rw [get?, root, if_pos rfl]) h

theorem Accepts.isRoot (h : files.Accepts path route) : isRoot route = false := by
  obtain ⟨_, _, _, _, _, free⟩ := h
  exact isRoot_of_get?_ne free

theorem replace_eq_ok_iff (text : String) (after : FileTree) :
    files.replace path text = .ok after ↔
      ∃ route, files.Accepts path route ∧ after = files.put route (.file text) := by
  constructor
  · intro h
    unfold replace at h
    split at h
    · cases h
    · cases h
    · rename_i name above named home
      split at h
      · cases h
      · rename_i free
        exact ⟨above.child name, ⟨name, above, named, home, rfl, free⟩, (Except.ok.inj h).symm⟩
  · rintro ⟨_, ⟨name, above, named, home, rfl, free⟩, rfl⟩
    simp only [replace, named, home]

/-- A text stands where it was put, and nothing else changes. -/
theorem Accepts.get?_put (h : files.Accepts path route) (text : String) :
    (files.put route (.file text)).get? route = some (.file text) ∧
      ∀ other, other ≠ route → (files.put route (.file text)).get? other = files.get? other :=
  ⟨get?_put_self h.isRoot, fun _ => get?_put_of_ne⟩

end CallToAction.FileTree
