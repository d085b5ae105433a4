import CallToAction.Text.Layout
import Mathlib.Data.List.Basic

/-!
# Texts made of lines

A text that ends each of its lines with a line break tells the lines, as long as there is no line
break within a line.

* `append_mark_inj_first`, `append_mark_inj_last`: a text is split at the first, or the last,
  occurrence of a mark in one way;
* `Unbroken`: a text without line breaks;
* `terminated_inj`: a text tells its lines.
-/

namespace CallToAction.Text

/-! ### Splitting at a mark -/

section Marks

variable {α : Type} {mark : α} {u v cs ds : List α}

theorem append_cons_inj_first (hu : mark ∉ u) (hv : mark ∉ v)
    (same : u ++ mark :: cs = v ++ mark :: ds) : u = v ∧ cs = ds := by
  induction u generalizing v with
  | nil =>
    cases v with
    | nil => exact ⟨rfl, List.tail_eq_of_cons_eq same⟩
    | cons d v => exact absurd (List.head_eq_of_cons_eq same ▸ List.mem_cons_self) hv
  | cons c u ih =>
    cases v with
    | nil => exact absurd (List.head_eq_of_cons_eq same ▸ List.mem_cons_self) hu
    | cons d v =>
      obtain ⟨rfl, rest⟩ := List.cons.inj same
      have later : mark ∉ u ∧ mark ∉ v :=
        ⟨List.not_mem_of_not_mem_cons hu, List.not_mem_of_not_mem_cons hv⟩
      obtain ⟨rfl, rfl⟩ := ih later.1 later.2 rest
      exact ⟨rfl, rfl⟩

theorem append_cons_inj_last (hc : mark ∉ cs) (hd : mark ∉ ds)
    (same : u ++ mark :: cs = v ++ mark :: ds) : u = v ∧ cs = ds := by
  have reversed := congrArg List.reverse same
  simp only [List.reverse_append, List.reverse_cons, List.append_assoc, List.singleton_append]
    at reversed
  obtain ⟨behind, before⟩ := append_cons_inj_first (by simpa using hc) (by simpa using hd) reversed
  exact ⟨List.reverse_injective before, List.reverse_injective behind⟩

end Marks

section Texts

variable {mark : Char} {s t u v : String}

theorem toList_append_mark (s u : String) (mark : Char) :
    (s ++ String.singleton mark ++ u).toList = s.toList ++ mark :: u.toList := by
  simp [String.toList_append]

theorem append_mark_inj_first (hs : mark ∉ s.toList) (ht : mark ∉ t.toList)
    (same : s ++ String.singleton mark ++ u = t ++ String.singleton mark ++ v) :
    s = t ∧ u = v := by
  have chars := congrArg String.toList same
  rw [toList_append_mark, toList_append_mark] at chars
  obtain ⟨before, behind⟩ := append_cons_inj_first hs ht chars
  exact ⟨String.toList_inj.1 before, String.toList_inj.1 behind⟩

theorem append_mark_inj_last (hu : mark ∉ u.toList) (hv : mark ∉ v.toList)
    (same : s ++ String.singleton mark ++ u = t ++ String.singleton mark ++ v) :
    s = t ∧ u = v := by
  have chars := congrArg String.toList same
  rw [toList_append_mark, toList_append_mark] at chars
  obtain ⟨before, behind⟩ := append_cons_inj_last hu hv chars
  exact ⟨String.toList_inj.1 before, String.toList_inj.1 behind⟩

end Texts

/-! ### Lines -/

/-- A text without line breaks. -/
def Unbroken (s : String) : Prop := '\n' ∉ s.toList

instance (s : String) : Decidable (Unbroken s) := inferInstanceAs (Decidable ('\n' ∉ s.toList))

@[simp] theorem unbroken_append {s t : String} : Unbroken (s ++ t) ↔ Unbroken s ∧ Unbroken t := by
  simp [Unbroken, String.toList_append]

theorem joinWith_empty_cons (s : String) (rest : List String) :
    joinWith "" (s :: rest) = s ++ joinWith "" rest := by
  cases rest with
  | nil => rw [joinWith, joinWith, String.append_empty]
  | cons t rest => simp [joinWith]

/-- A text tells the lines that it ends with line breaks. -/
theorem terminated_inj {ls ms : List String} (hl : ∀ l ∈ ls, Unbroken l)
    (hm : ∀ m ∈ ms, Unbroken m)
    (same : joinWith "" (ls.map (· ++ "\n")) = joinWith "" (ms.map (· ++ "\n"))) : ls = ms := by
  have cut (s : String) (rest : List String) :
      joinWith "" ((s :: rest).map (· ++ "\n")) =
        s ++ String.singleton '\n' ++ joinWith "" (rest.map (· ++ "\n")) :=
    joinWith_empty_cons _ _
  induction ls generalizing ms with
  | nil =>
    cases ms with
    | nil => rfl
    | cons m ms => simpa [joinWith] using congrArg String.toList (same.trans (cut m ms))
  | cons l ls ih =>
    cases ms with
    | nil => simpa [joinWith] using congrArg String.toList (same.symm.trans (cut l ls))
    | cons m ms =>
      obtain ⟨first, others⟩ := List.forall_mem_cons.1 hl
      obtain ⟨first', others'⟩ := List.forall_mem_cons.1 hm
      rw [cut, cut] at same
      obtain ⟨rfl, rest⟩ := append_mark_inj_first first first' same
      rw [ih others others' rest]

end CallToAction.Text
