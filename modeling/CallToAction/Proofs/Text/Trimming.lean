import CallToAction.Text.Blank
import Mathlib.Data.List.Basic
import Mathlib.Data.List.TakeWhile

/-!
# Trimmed text

Trimming takes away the white space around a text.  What is left neither begins nor ends with white
space, and this says what it is.

* `Text.Trims`: a text and what is left of it;
* `Text.trim_eq_iff`: trimming leaves that and nothing else.
-/

namespace CallToAction.Text

/-- `core` is what is left of a text without the white space around it. -/
structure Trims (text core : List Char) : Prop where
  around : ∃ left right, text = left ++ (core ++ right) ∧ (∀ c ∈ left, isBlank c = true) ∧
    ∀ c ∈ right, isBlank c = true
  first : ∀ c ∈ core.head?, isBlank c = false
  last : ∀ c ∈ core.getLast?, isBlank c = false

/-! ### One side -/

theorem trimLeft_append {left rest : List Char} (blank : ∀ c ∈ left, isBlank c = true)
    (first : ∀ c ∈ rest.head?, isBlank c = false) : trimLeft (left ++ rest) = rest := by
  rw [trimLeft, List.dropWhile_append_of_pos blank]
  cases rest with
  | nil => rfl
  | cons c rest => exact List.dropWhile_cons_of_neg (by rw [first c rfl]; exact Bool.false_ne_true)

theorem trimRight_eq (cs : List Char) : trimRight cs = (trimLeft cs.reverse).reverse := rfl

theorem trimRight_append {core right : List Char} (blank : ∀ c ∈ right, isBlank c = true)
    (last : ∀ c ∈ core.getLast?, isBlank c = false) : trimRight (core ++ right) = core := by
  rw [trimRight_eq, List.reverse_append, trimLeft_append, List.reverse_reverse]
  · exact fun c member => blank c (List.mem_reverse.1 member)
  · rwa [List.head?_reverse]

theorem exists_trimLeft (cs : List Char) :
    ∃ left, cs = left ++ trimLeft cs ∧ ∀ c ∈ left, isBlank c = true :=
  ⟨cs.takeWhile isBlank, List.takeWhile_append_dropWhile.symm,
    List.all_eq_true.1 List.all_takeWhile⟩

theorem exists_trimRight (cs : List Char) :
    ∃ right, cs = trimRight cs ++ right ∧ ∀ c ∈ right, isBlank c = true := by
  obtain ⟨left, whole, blank⟩ := exists_trimLeft cs.reverse
  refine ⟨left.reverse, ?_, fun c member => blank c (List.mem_reverse.1 member)⟩
  rw [trimRight_eq, ← List.reverse_append, ← whole, List.reverse_reverse]

theorem head_trimLeft (cs : List Char) : ∀ c ∈ (trimLeft cs).head?, isBlank c = false := by
  intro c head
  have first := List.head?_dropWhile_not isBlank cs
  rw [← trimLeft, Option.mem_def.1 head] at first
  exact first

/-! ### Both sides -/

theorem trims_trimRight_trimLeft (cs : List Char) : Trims cs (trimRight (trimLeft cs)) := by
  obtain ⟨left, whole, blankLeft⟩ := exists_trimLeft cs
  obtain ⟨right, rest, blankRight⟩ := exists_trimRight (trimLeft cs)
  refine ⟨⟨left, right, ?_, blankLeft, blankRight⟩, fun c head => ?_, fun c last => ?_⟩
  · rw [← rest, ← whole]
  · refine head_trimLeft cs c ?_
    rw [rest]
    exact List.mem_head?_append_of_mem_head? head
  · refine head_trimLeft (trimLeft cs).reverse c ?_
    rwa [trimRight_eq, List.getLast?_reverse] at last

theorem Trims.trim_eq {text core : List Char} (h : Trims text core) :
    trimRight (trimLeft text) = core := by
  obtain ⟨⟨left, right, rfl, blankLeft, blankRight⟩, first, last⟩ := h
  cases core with
  | nil =>
    have blank : ∀ c ∈ left ++ ([] ++ right), isBlank c = true := by
      intro c member
      rcases List.mem_append.1 member with member | member
      · exact blankLeft c member
      · exact blankRight c member
    rw [trimLeft, List.dropWhile_eq_nil_iff.2 blank]
    rfl
  | cons c core =>
    have head : ∀ d ∈ (c :: core ++ right).head?, isBlank d = false := first
    rw [trimLeft_append blankLeft head, trimRight_append blankRight last]

/-- Trimming leaves what is left without the white space around the text, and nothing else. -/
theorem trim_eq_iff {s t : String} : trim s = t ↔ Trims s.toList t.toList := by
  rw [trim, ← String.toList_inj, String.toList_ofList]
  constructor
  · intro h
    rw [← h]
    exact trims_trimRight_trimLeft s.toList
  · exact Trims.trim_eq

theorem trim_ofList_eq_iff {cs : List Char} {t : String} :
    trim (.ofList cs) = t ↔ Trims cs t.toList := by
  rw [trim_eq_iff, String.toList_ofList]

/-- A text without white space is left as it is. -/
theorem trim_eq_self {cs : List Char} (h : ∀ c ∈ cs, isBlank c = false) :
    trim (.ofList cs) = .ofList cs := by
  rw [trim_ofList_eq_iff, String.toList_ofList]
  refine ⟨⟨[], [], by simp, nofun, nofun⟩, fun c head => ?_, fun c last => ?_⟩
  · exact h c (List.mem_of_mem_head? head)
  · exact h c (List.mem_of_mem_getLast? last)

end CallToAction.Text
