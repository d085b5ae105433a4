import Mathlib.Data.List.Lex
import Mathlib.Data.List.Nodup
import Mathlib.Data.List.Sort
import Mathlib.Data.Prod.Lex
import Mathlib.Data.String.Basic
import CallToAction.Glob.Expansion

/-!
# The order of listings

Paths are listed in the lexicographic order of their components, `Path.key`.  Sorted by it, the same
paths come out in the same order whatever order they are found in, up to the spelling of a path.

The entries of a tree have an order too, which no answer depends on: a pattern stands for the same
paths in a tree whose entries stand in another order.

* `map_key_mergeSort_eq`: sorted paths do not tell in which order they were found;
* `look_of_relisted`: nor do the paths of a pattern tell the order of the entries.
-/

namespace CallToAction

/-! ### Sorting by a key -/

section Keyed

variable {α β : Type} [LinearOrder β] {le : α → α → Bool} {key : α → β}
  (h : ∀ a b, le a b = true ↔ key a ≤ key b)

include h

theorem pairwise_mergeSort_key (items : List α) :
    (items.mergeSort le).Pairwise fun a b => key a ≤ key b := by
  have trans (a b c : α) (ab : le a b = true) (bc : le b c = true) : le a c = true := by
    rw [h] at ab bc ⊢
    exact ab.trans bc
  have total (a b : α) : (le a b || le b a) = true := by
    rw [Bool.or_eq_true, h, h]
    exact le_total _ _
  exact (List.pairwise_mergeSort trans total items).imp fun before => (h _ _).1 before

/-- The order in which items are found does not show once they are sorted. -/
theorem map_key_mergeSort_eq {items items' : List α} (same : items.Perm items') :
    (items.mergeSort le).map key = (items'.mergeSort le).map key := by
  have sorted (items : List α) : ((items.mergeSort le).map key).Pairwise (· ≤ ·) :=
    List.pairwise_map.2 (pairwise_mergeSort_key h items)
  have perm : ((items.mergeSort le).map key).Perm ((items'.mergeSort le).map key) :=
    ((List.mergeSort_perm _ _).trans (same.trans (List.mergeSort_perm _ _).symm)).map key
  exact perm.eq_of_pairwise' (sorted items) (sorted items')

end Keyed

namespace Path

/-! ### The order of paths -/

/-- The components by which a path is listed, in lexicographic order. -/
def key (path : String) : List (ℕ ×ₗ String) := (ranks path).map toLex

theorem rankLt_iff (a b : Nat × String) : rankLt a b = true ↔ toLex a < toLex b := by
  simp [rankLt, Prod.Lex.toLex_lt_toLex]

theorem lex_rankLt_iff (as bs : List (Nat × String)) :
    as.lex bs rankLt = true ↔ as.map toLex < bs.map toLex := by
  induction as generalizing bs with
  | nil => cases bs <;> simp [List.lex]
  | cons a as ih =>
    cases bs with
    | nil => simp [List.lex]
    | cons b bs =>
      simp only [List.lex, Bool.or_eq_true, Bool.and_eq_true, beq_iff_eq, rankLt_iff, ih,
        List.map_cons, List.cons_lt_cons_iff, EmbeddingLike.apply_eq_iff_eq]

theorem precedes_iff (p q : String) : precedes p q = true ↔ key p ≤ key q := by
  rw [precedes, Bool.not_eq_true', ← Bool.not_eq_true, lex_rankLt_iff, ← not_lt]
  rfl

theorem namesPrecede_iff (names others : List String) :
    namesPrecede names others = true ↔ names ≤ others := by
  rw [namesPrecede, Bool.not_eq_true', ← Bool.not_eq_true, List.lex_eq_true_iff_lex, ← not_lt]
  simp only [decide_eq_true_eq]
  rfl

theorem key_eq_iff (p q : String) : key p = key q ↔ ranks p = ranks q :=
  (List.map_injective_iff.2 toLex.injective).eq_iff

end Path

namespace FileTree

/-! ### Trees whose entries stand in another order -/

/-- Trees with the same entries, of which no two have one route, in some order. -/
structure Relisted (files files' : FileTree) : Prop where
  distinct : (files.entries.map Prod.fst).Nodup
  entries : files.entries.Perm files'.entries

theorem lookup_eq_some_iff {es : List (Route × Entry)} (distinct : (es.map Prod.fst).Nodup)
    (route : Route) (entry : Entry) : es.lookup route = some entry ↔ (route, entry) ∈ es := by
  induction es with
  | nil => simp
  | cons e es ih =>
    obtain ⟨other, x⟩ := e
    rw [List.map_cons, List.nodup_cons] at distinct
    by_cases h : route = other
    · subst h
      have absent : (route, entry) ∉ es := fun member =>
        distinct.1 (List.mem_map.2 ⟨(route, entry), member, rfl⟩)
      simp [absent, eq_comm]
    · simp [List.lookup_cons, beq_eq_false_iff_ne.2 h, ih distinct.2, h]

variable {files files' : FileTree} (h : Relisted files files')

include h

theorem Relisted.get?_eq (route : Route) : files.get? route = files'.get? route := by
  have distinct' : (files'.entries.map Prod.fst).Nodup :=
    (h.entries.map Prod.fst).nodup_iff.1 h.distinct
  unfold get?
  split
  · rfl
  · refine Option.ext fun entry => ?_
    rw [lookup_eq_some_iff h.distinct, lookup_eq_some_iff distinct', h.entries.mem_iff]

theorem Relisted.below_eq (route : Route) : files.below route = files'.below route := by
  have sorted : (files.below route).map id = (files'.below route).map id :=
    map_key_mergeSort_eq Path.namesPrecede_iff (h.entries.filterMap _)
  rwa [List.map_id, List.map_id] at sorted

theorem Relisted.names_eq (route : Route) : files.names route = files'.names route := by
  rw [names, names, h.below_eq]

theorem Relisted.directory_eq (route : Route) : files.directory route = files'.directory route := by
  rw [directory, directory, h.get?_eq]

theorem Relisted.follow_eq (route : Route) (parts : List String) :
    files.follow route parts = files'.follow route parts := by
  induction parts generalizing route with
  | nil => rfl
  | cons part parts ih =>
    rw [follow, follow, h.directory_eq]
    split
    · exact ih _
    · rfl

theorem Relisted.locate_eq (path : String) : files.locate path = files'.locate path := by
  rw [locate, locate, h.follow_eq]

theorem Relisted.find?_eq (path : String) : files.find? path = files'.find? path := by
  simp only [find?, h.locate_eq, h.get?_eq]

theorem Relisted.contains_eq (path : String) : files.contains path = files'.contains path := by
  rw [contains, contains, h.find?_eq]

end FileTree

namespace Glob

open FileTree

variable {files files' : FileTree} (h : Relisted files files')

include h

theorem isDirectory_of_relisted (path : String) :
    isDirectory files path = isDirectory files' path := by
  rw [isDirectory, isDirectory, h.find?_eq]

theorem children_of_relisted (path : String) : children files path = children files' path := by
  simp only [children, h.locate_eq, h.names_eq]

theorem descendants_of_relisted (path : String) :
    descendants files path = descendants files' path := by
  simp only [descendants, h.locate_eq, h.below_eq]

theorem matching_of_relisted (path : String) (components : List Component) :
    matching files path components = matching files' path components := by
  fun_induction matching files path components with
  | case1 path => rfl
  | case2 path name rest next exists? found ih =>
    rw [matching, ← h.contains_eq, ← isDirectory_of_relisted h]
    exact ih.trans (if_pos found).symm
  | case3 path name rest next exists? missing =>
    rw [matching, ← h.contains_eq, ← isDirectory_of_relisted h]
    exact (if_neg missing).symm
  | case4 path pieces rest component ihDots ih =>
    simp only [matching, isDirectory_of_relisted h, children_of_relisted h, ihDots, ih]
    rfl
  | case5 path =>
    rw [matching, descendants_of_relisted h, funext (isDirectory_of_relisted h)]
  | case6 path component rest ih =>
    simp only [matching, descendants_of_relisted h, ih]

theorem paths_of_relisted (pattern : PathPattern) : pattern.paths files = pattern.paths files' := by
  simp only [PathPattern.paths, matching_of_relisted h, funext (isDirectory_of_relisted h)]

/-- Looking patterns up does not tell in which order a tree has its entries. -/
theorem look_of_relisted : look files = look files' := by
  funext text
  simp only [look, paths_of_relisted h]

end Glob

end CallToAction
