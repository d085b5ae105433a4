import CallToAction.Proofs.FileTree.Writing
import Mathlib.Tactic.SplitIfs

/-!
# Locating paths

A path leads along its parts through directories that exist.  Its parent is its text without the
last part that has a name, so a path that ends in a name leads to the entry of that name in its
home; behind a name may also stand parts that lead nowhere, and then the path leads into the entry,
which has to be a directory.

* `Path.parts_joinWith`: paths are put together from their parts;
* `Path.Splits`, `Path.exists_splits`: a path as directories, a name, and idle parts behind it;
* `home_eq_ok_iff`: the home of a path is where its directories lead;
* `locate_eq_ok_iff`: where a path leads;
* `Reached.follow`: whatever is reached lies in directories.
-/

namespace CallToAction

/-! ### Parts -/

namespace Path

/-- A part that leads nowhere. -/
def IsIdle (part : String) : Prop := part = "" ∨ part = "."

theorem split_ne_nil (cs : List Char) : split cs ≠ [] := by
  cases cs with
  | nil => simp [split]
  | cons c cs =>
    rw [split]
    split_ifs
    · simp
    · split <;> simp

theorem split_slash_cons (cs : List Char) : split ('/' :: cs) = [] :: split cs := by
  rw [split, if_pos rfl]

theorem split_cons_of_ne {c : Char} {cs part : List Char} {rest : List (List Char)} (h : c ≠ '/')
    (parts : split cs = part :: rest) : split (c :: cs) = (c :: part) :: rest := by
  rw [split, if_neg h, parts]

theorem split_append_slash {part : List Char} (h : '/' ∉ part) (cs : List Char) :
    split (part ++ '/' :: cs) = part :: split cs := by
  induction part with
  | nil => exact split_slash_cons cs
  | cons c part ih =>
    rw [List.mem_cons, not_or] at h
    exact split_cons_of_ne (Ne.symm h.1) (ih h.2)

theorem split_of_not_mem {part : List Char} (h : '/' ∉ part) : split part = [part] := by
  induction part with
  | nil => rfl
  | cons c part ih =>
    rw [List.mem_cons, not_or] at h
    exact split_cons_of_ne (Ne.symm h.1) (ih h.2)

theorem not_mem_of_mem_split {cs part : List Char} (h : part ∈ split cs) : '/' ∉ part := by
  induction cs generalizing part with
  | nil =>
    obtain rfl := List.mem_singleton.1 h
    exact List.not_mem_nil
  | cons c cs ih =>
    cases parts : split cs with
    | nil => exact absurd parts (split_ne_nil cs)
    | cons first rest =>
      rw [parts] at ih
      by_cases slash : c = '/'
      · subst slash
        rw [split_slash_cons, parts, List.mem_cons] at h
        rcases h with rfl | h
        · exact List.not_mem_nil
        · exact ih h
      · rw [split_cons_of_ne slash parts, List.mem_cons] at h
        rcases h with rfl | h
        · rw [List.mem_cons, not_or]
          exact ⟨Ne.symm slash, ih List.mem_cons_self⟩
        · exact ih (List.mem_cons_of_mem _ h)

theorem parts_ne_nil (path : String) : parts path ≠ [] := by
  simp [parts, split_ne_nil]

theorem not_mem_of_mem_parts {path part : String} (h : part ∈ parts path) :
    '/' ∉ part.toList := by
  obtain ⟨cs, hcs, rfl⟩ := List.mem_map.1 h
  rw [String.toList_ofList]
  exact not_mem_of_mem_split hcs

/-- Parts are those of the path that they are put together to. -/
theorem parts_joinWith {ps : List String} (some : ps ≠ []) (h : ∀ p ∈ ps, '/' ∉ p.toList) :
    parts (Text.joinWith "/" ps) = ps := by
  induction ps with
  | nil => exact absurd rfl some
  | cons p ps ih =>
    have first := h p List.mem_cons_self
    cases ps with
    | nil => simp [Text.joinWith, parts, split_of_not_mem first]
    | cons q qs =>
      have rest := ih (by simp) fun r hr => h r (List.mem_cons_of_mem _ hr)
      have whole : (Text.joinWith "/" (p :: q :: qs)).toList =
          p.toList ++ '/' :: (Text.joinWith "/" (q :: qs)).toList := by
        simp [Text.joinWith]
      rw [parts, whole, split_append_slash first, List.map_cons, String.ofList_toList]
      exact congrArg (p :: ·) rest

/-- A path starts at the root of all files if nothing stands before its first slash. -/
theorem isAbsolute_iff (path : String) :
    isAbsolute path = true ↔ ∃ rest, rest ≠ [] ∧ parts path = "" :: rest := by
  unfold isAbsolute parts
  cases path.toList with
  | nil => simp [split]
  | cons c cs =>
    cases pieces : split cs with
    | nil => exact absurd pieces (split_ne_nil cs)
    | cons first rest =>
      by_cases slash : c = '/'
      · subst slash
        simp [split_slash_cons, pieces]
      · simp [split_cons_of_ne slash pieces, slash]

/-! ### Names and parents -/

/-- A path ends in a name: nothing stands behind its last component. -/
def EndsInName (path : String) : Prop :=
  (name? path).isSome ∧ (parts path).getLast? = name? path

instance (path : String) : Decidable (EndsInName path) := inferInstanceAs (Decidable (_ ∧ _))

/-- A path consists of directories, a name, and parts behind the name that lead nowhere. -/
structure Splits (path : String) (dirs : List String) (name : String) (idles : List String) :
    Prop where
  parts_eq : parts path = dirs ++ name :: idles
  idle : ∀ part ∈ idles, IsIdle part
  not_idle : ¬ IsIdle name
  not_above : name ≠ ".."
  reversed_eq : reversed path = name :: dirs.reverse

theorem exists_dropIdle {ps : List String} (some : ps ≠ []) :
    ∃ idles, ps = idles ++ dropIdle ps ∧ (∀ part ∈ idles, IsIdle part) ∧ dropIdle ps ≠ [] := by
  induction ps with
  | nil => exact absurd rfl some
  | cons p ps ih =>
    cases ps with
    | nil => exact ⟨[], rfl, by simp, by simp [dropIdle]⟩
    | cons q qs =>
      have step : dropIdle (p :: q :: qs) =
          if p = "" ∨ p = "." then dropIdle (q :: qs) else p :: q :: qs := rfl
      rw [step]
      split_ifs with idle
      · obtain ⟨idles, whole, all, left⟩ := ih (by simp)
        refine ⟨p :: idles, by rw [List.cons_append, ← whole], ?_, left⟩
        rw [List.forall_mem_cons]
        exact ⟨idle, all⟩
      · exact ⟨[], rfl, by simp, by simp⟩

/-- The parent of a path, by what stands before its last component. -/
theorem parent_of_reversed {path name : String} {rest : List String} (some : rest ≠ [])
    (h : reversed path = name :: rest) :
    parent path =
      if dropIdle rest = [""] then "/" else Text.joinWith "/" (dropIdle rest).reverse := by
  cases rest with
  | nil => exact absurd rfl some
  | cons above rest =>
    unfold parent
    rw [h]
    simp only
    split
    · rename_i root
      rw [if_pos root]
    · rename_i other
      rw [if_neg other]

theorem exists_splits {path name : String} (h : name? path = some name) :
    ∃ dirs idles, Splits path dirs name idles := by
  unfold name? at h
  split at h
  · rename_i part rest reversed_eq
    split_ifs at h with unnamed
    cases h
    have some : (parts path).reverse ≠ [] := by simpa using parts_ne_nil path
    obtain ⟨idles, whole, all, -⟩ := exists_dropIdle some
    rw [show dropIdle (parts path).reverse = name :: rest from reversed_eq] at whole
    have parts_eq := congrArg List.reverse whole
    refine ⟨rest.reverse, idles.reverse, by simpa using parts_eq, by simpa using all, ?_, ?_,
      by simpa using reversed_eq⟩
    · rintro (rfl | rfl)
      · exact unnamed (.inl rfl)
      · exact unnamed (.inr (.inl rfl))
    · rintro rfl
      exact unnamed (.inr (.inr rfl))
  · cases h

namespace Splits

variable {path name : String} {dirs idles : List String}

theorem name?_eq (h : Splits path dirs name idles) : name? path = some name := by
  unfold name?
  rw [h.reversed_eq]
  refine if_neg ?_
  rintro (rfl | rfl | rfl)
  · exact h.not_idle (.inl rfl)
  · exact h.not_idle (.inr rfl)
  · exact h.not_above rfl

theorem endsInName_iff (h : Splits path dirs name idles) : EndsInName path ↔ idles = [] := by
  unfold EndsInName
  rw [h.name?_eq, h.parts_eq, List.getLast?_append, List.getLast?_cons]
  rcases List.eq_nil_or_concat idles with rfl | ⟨first, last, rfl⟩
  · simp
  · have := h.idle last (by simp)
    have other : last ≠ name := by
      rintro rfl
      exact h.not_idle this
    simp [other]

theorem ne_empty (h : Splits path dirs name idles) : path ≠ "" := by
  rintro rfl
  cases h.name?_eq

/-- The parent of a path has its directories for parts, without those at their end that lead
nowhere, unless it is the root of all files. -/
theorem parts_parent (h : Splits path dirs name idles) (some : dirs ≠ []) :
    dropIdle dirs.reverse = [""] ∧ parent path = "/" ∨
      dropIdle dirs.reverse ≠ [""] ∧ parts (parent path) = (dropIdle dirs.reverse).reverse := by
  have some : dirs.reverse ≠ [] := by simpa using some
  have parent_eq := parent_of_reversed some h.reversed_eq
  split_ifs at parent_eq with root
  · exact .inl ⟨root, parent_eq⟩
  · refine .inr ⟨root, ?_⟩
    obtain ⟨behind, whole, -, left⟩ := exists_dropIdle some
    rw [parent_eq]
    refine parts_joinWith (by simpa using left) fun part hp => ?_
    have inside : part ∈ dirs.reverse := by
      rw [whole]
      exact List.mem_append_right _ (List.mem_reverse.1 hp)
    have : part ∈ parts path := by
      rw [h.parts_eq]
      exact List.mem_append_left _ (List.mem_reverse.1 inside)
    exact not_mem_of_mem_parts this

/-- Up to parts at their end that lead nowhere, the parent of a path has its directories for
parts. -/
theorem exists_parent (h : Splits path dirs name idles) (some : dirs ≠ []) :
    ∃ above behind behind', dirs = above ++ behind ∧ parts (parent path) = above ++ behind' ∧
      (∀ part ∈ behind, IsIdle part) ∧ (∀ part ∈ behind', IsIdle part) ∧ parent path ≠ "" ∧
      isAbsolute (parent path) = isAbsolute path := by
  obtain ⟨behind, whole, all, left⟩ := exists_dropIdle (by simpa using some : dirs.reverse ≠ [])
  have dirs_eq : dirs = (dropIdle dirs.reverse).reverse ++ behind.reverse := by
    simpa using congrArg List.reverse whole
  have idle : ∀ part ∈ behind.reverse, IsIdle part := by simpa using all
  have parts_eq := h.parts_eq
  rw [dirs_eq] at parts_eq
  rcases h.parts_parent some with ⟨root, parent_eq⟩ | ⟨root, above_parts⟩
  · rw [root] at dirs_eq parts_eq
    refine ⟨[""], behind.reverse, [""], dirs_eq, by rw [parent_eq]; rfl, idle, by simp [IsIdle],
      by simp [parent_eq], ?_⟩
    rw [parent_eq, Bool.eq_iff_iff, isAbsolute_iff, isAbsolute_iff, parts_eq]
    exact ⟨fun _ => ⟨behind.reverse ++ name :: idles, by simp, rfl⟩, fun _ => ⟨[""], by simp, rfl⟩⟩
  · generalize dropIdle dirs.reverse = last at root left above_parts dirs_eq parts_eq
    have not_root : last.reverse ≠ [""] := fun same => root (List.reverse_eq_iff.1 same)
    refine ⟨last.reverse, behind.reverse, [], dirs_eq, by simpa using above_parts, idle, by simp,
      ?_, ?_⟩
    · intro nothing
      rw [nothing] at above_parts
      exact not_root above_parts.symm
    · rw [Bool.eq_iff_iff, isAbsolute_iff, isAbsolute_iff, parts_eq, above_parts]
      cases above : last.reverse with
      | nil => exact absurd (List.reverse_eq_nil_iff.1 above) left
      | cons first rest =>
        have : first = "" → rest ≠ [] := by
          rintro rfl rfl
          exact not_root above
        simpa using this

end Splits

end Path

namespace FileTree

open CallToAction.Path (IsIdle Splits EndsInName)

variable {files : FileTree} {route r : Route}

/-! ### Following parts -/

theorem directory_eq_ok_iff :
    files.directory route = .ok r ↔ r = route ∧ files.get? route = some .directory := by
  unfold directory
  split
  · rename_i found
    simp [found, eq_comm]
  · rename_i found
    simp [found]
  · rename_i found
    simp [found]

@[simp] theorem follow_nil : files.follow route [] = .ok route := rfl

theorem follow_cons_eq_ok_iff (part : String) (parts : List String) :
    files.follow route (part :: parts) = .ok r ↔
      files.get? route = some .directory ∧ files.follow (step route part) parts = .ok r := by
  rw [follow]
  cases found : files.directory route with
  | error e =>
    have : files.get? route ≠ some .directory := fun h => by
      cases found.symm.trans (directory_eq_ok_iff.2 ⟨rfl, h⟩)
    simp [this]
  | ok above =>
    obtain ⟨rfl, here⟩ := directory_eq_ok_iff.1 found
    simp [here]

theorem follow_append_eq_ok_iff (parts parts' : List String) :
    files.follow route (parts ++ parts') = .ok r ↔
      ∃ mid, files.follow route parts = .ok mid ∧ files.follow mid parts' = .ok r := by
  induction parts generalizing route with
  | nil => simp
  | cons part parts ih =>
    simp only [List.cons_append, follow_cons_eq_ok_iff, ih]
    constructor
    · rintro ⟨here, mid, first, rest⟩
      exact ⟨mid, ⟨here, first⟩, rest⟩
    · rintro ⟨mid, ⟨here, first⟩, rest⟩
      exact ⟨here, mid, first, rest⟩

theorem step_of_isIdle {part : String} (h : IsIdle part) : step route part = route := if_pos h

theorem step_of_name {name : String} (idle : ¬ IsIdle name) (above : name ≠ "..") :
    step route name = route.child name := by
  unfold IsIdle at idle
  rw [step, if_neg idle, if_neg above]

/-- Parts that lead nowhere only ask for a directory. -/
theorem follow_idle_eq_ok_iff {parts : List String} (idle : ∀ part ∈ parts, IsIdle part) :
    files.follow route parts = .ok r ∧ files.get? r = some .directory ↔
      r = route ∧ files.get? route = some .directory := by
  induction parts with
  | nil =>
    rw [follow_nil, Except.ok.injEq]
    constructor <;> (rintro ⟨rfl, here⟩; exact ⟨rfl, here⟩)
  | cons part parts ih =>
    rw [List.forall_mem_cons] at idle
    rw [follow_cons_eq_ok_iff, step_of_isIdle idle.1, and_assoc, ih idle.2]
    exact ⟨fun h => h.2, fun h => ⟨h.2, h⟩⟩

theorem follow_append_idle_eq_ok_iff (parts : List String) {behind : List String}
    (idle : ∀ part ∈ behind, IsIdle part) :
    files.follow route (parts ++ behind) = .ok r ∧ files.get? r = some .directory ↔
      files.follow route parts = .ok r ∧ files.get? r = some .directory := by
  rw [follow_append_eq_ok_iff]
  constructor
  · rintro ⟨⟨mid, first, rest⟩, here⟩
    obtain ⟨rfl, here⟩ := (follow_idle_eq_ok_iff idle).1 ⟨rest, here⟩
    exact ⟨first, here⟩
  · rintro ⟨first, here⟩
    obtain ⟨rest, -⟩ := (follow_idle_eq_ok_iff idle).2 ⟨rfl, here⟩
    exact ⟨⟨r, first, rest⟩, here⟩

/-! ### Homes -/

theorem locate_eq_follow {path : String} (h : path ≠ "") :
    files.locate path = files.follow (start path) (Path.parts path) := if_neg h

variable {path name : String} {dirs idles : List String}

/-- The home of a path is where its directories lead. -/
theorem home_eq_ok_iff (h : Splits path dirs name idles) :
    files.home path = .ok r ↔
      files.follow (start path) dirs = .ok r ∧ files.get? r = some .directory := by
  by_cases none : dirs = []
  · subst none
    have parent_eq : Path.parent path = "" := by
      rw [Path.parent, h.reversed_eq]
      rfl
    have relative : Path.isAbsolute path = false := by
      rw [Bool.eq_false_iff, Ne, Path.isAbsolute_iff, h.parts_eq]
      rintro ⟨rest, -, whole⟩
      exact h.not_idle (.inl (List.cons.inj whole).1)
    have root : files.get? ⟨false, []⟩ = some .directory := rfl
    rw [home, if_pos parent_eq, start, relative, follow_nil, Except.ok.injEq, eq_comm]
    constructor
    · rintro rfl
      exact ⟨rfl, root⟩
    · exact fun h => h.1
  · obtain ⟨above, behind, behind', rfl, parts_eq, idle, idle', some, absolute⟩ :=
      h.exists_parent none
    rw [home, if_neg some, locate_eq_follow some, follow_append_idle_eq_ok_iff _ idle,
      show start path = start (Path.parent path) by rw [start, start, absolute], parts_eq,
      ← follow_append_idle_eq_ok_iff above idle']
    cases files.follow (start (Path.parent path)) (above ++ behind') with
    | error e => simp [bind, Except.bind]
    | ok found =>
      simp only [bind, Except.bind, directory_eq_ok_iff, Except.ok.injEq]
      constructor <;> (rintro ⟨rfl, here⟩; exact ⟨rfl, here⟩)

/-- A path leads to the entry of its name in its home, or into that entry. -/
theorem locate_eq_ok_iff (h : Splits path dirs name idles) :
    files.locate path = .ok r ↔
      ∃ above, files.home path = .ok above ∧ files.follow (above.child name) idles = .ok r := by
  rw [locate_eq_follow h.ne_empty, h.parts_eq, follow_append_eq_ok_iff]
  simp only [follow_cons_eq_ok_iff, step_of_name h.not_idle h.not_above, home_eq_ok_iff h,
    and_assoc]

/-- A path that ends in a name leads to the entry of that name in its home. -/
theorem locate_of_endsInName (named : Path.name? path = some name) (ends : EndsInName path) :
    files.locate path = .ok r ↔ ∃ above, files.home path = .ok above ∧ r = above.child name := by
  obtain ⟨dirs, idles, h⟩ := Path.exists_splits named
  obtain rfl := h.endsInName_iff.1 ends
  simp [locate_eq_ok_iff h, eq_comm]

end FileTree

end CallToAction
