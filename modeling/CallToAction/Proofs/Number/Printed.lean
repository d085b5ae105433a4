import CallToAction.Proofs.Number.Written

/-!
# The characters of printed numbers

Messages, tables and traces print whole numbers and doubles.  What they print has the characters of
numbers, and the letters of the words for what is not finite.

* `Printed.natRepr`, `Printed.intRepr`: whole numbers;
* `Printed.text`, `Printed.fixed`: doubles, with the shortest digits and with a number of places.
-/

namespace CallToAction

/-- The characters of numbers and of the words for what is not a finite number. -/
def isPrinted (c : Char) : Bool := isFigure c || ['N', 'a', 'i', 'n', 'f'].contains c

/-- A text of such characters. -/
def Printed (s : String) : Prop := ∀ c ∈ s.toList, isPrinted c = true

instance (s : String) : Decidable (Printed s) :=
  decidable_of_iff (s.toList.all isPrinted = true) List.all_eq_true

namespace Printed

theorem not_mem {s : String} (h : Printed s) {c : Char} (other : isPrinted c = false) :
    c ∉ s.toList := by
  intro hc
  cases (h c hc).symm.trans other

theorem append {s t : String} (hs : Printed s) (ht : Printed t) : Printed (s ++ t) := by
  intro c hc
  rw [String.toList_append] at hc
  exact (List.mem_append.1 hc).elim (hs c) (ht c)

theorem of_figures {s : String} (h : ∀ c ∈ s.toList, isFigure c = true) : Printed s := by
  intro c hc
  rw [isPrinted, h c hc, Bool.true_or]

theorem of_digits {cs : List Char} (h : ∀ c ∈ cs, c.isDigit = true) : Printed (.ofList cs) := by
  refine of_figures fun c hc => ?_
  rw [String.toList_ofList] at hc
  exact isFigure_of_isDigit (h c hc)

theorem natRepr (n : ℕ) : Printed (Nat.repr n) :=
  of_digits fun _ => isDigit_of_mem_toDigits

theorem intRepr (i : ℤ) : Printed (Int.repr i) := by
  cases i with
  | ofNat n => exact natRepr n
  | negSucc n => exact append (by decide) (natRepr _)

theorem signed {cs : List Char} (h : Printed (.ofList cs)) (negative : Bool) :
    Printed (Number.signed negative cs) := by
  cases negative with
  | false => exact h
  | true =>
    rw [Number.signed, if_pos rfl, String.ofList_cons]
    exact append (by decide) h

theorem text (x : Float) : Printed (Number.text x) := by
  unfold Number.text
  split
  · decide
  · exact signed (by decide) _
  · have digits := Spelling.unsigned_magnitude (s := .plain) (List.all_eq_true.1 (by decide))
    exact of_figures (Number.figures_signed (digits _ _)).isFigure

theorem pointed (places n : ℕ) : Printed (.ofList (Number.pointed places n)) := by
  have zeros (k : ℕ) : Printed (.ofList (List.replicate k '0')) :=
    of_digits fun c hc => by rw [List.eq_of_mem_replicate hc]; rfl
  unfold Number.pointed
  dsimp only
  split_ifs
  · exact natRepr _
  · rw [String.ofList_append, String.ofList_cons, String.ofList_append]
    exact (natRepr _).append (append (by decide) ((zeros _).append (natRepr _)))

theorem fixed (places : ℕ) (x : Float) : Printed (Number.fixed places x) := by
  unfold Number.fixed
  split
  · decide
  · exact signed (by decide) _
  · exact signed (pointed _ _) _

end Printed

end CallToAction
