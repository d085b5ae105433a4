import CallToAction.Proofs.Number.Printed
import CallToAction.Text.Ink
import CallToAction.Text.Blank
import CallToAction.Text.Layout

/-!
# Text without its ink

An escape sequence that dresses text is `ESC [`, parameters, and `m`.  Stripping takes all of them
out of a text.  A dressed text reads as a bare one if stripping leaves the bare text, whatever
stands behind it: so stripping goes through concatenation and through the lines of a text.

* `Ink.strip`: a text without escape sequences;
* `Ink.Plain`: a text without escape characters, which stripping leaves as it is;
* `Ink.Dresses`: a dressed text and what it reads as;
* `Dresses.paint`: paint dresses a text and does not change what it reads as;
* `Dresses.joinWith`: texts are dressed one by one.
-/

namespace CallToAction.Ink

/-! ### Stripping -/

/-- The characters between `ESC [` and `m`. -/
def isParameter (c : Char) : Bool := c.isDigit || c == ';'

/-- What stands behind the escape sequence that characters begin with. -/
def behindSequence? : List Char → Option (List Char)
  | '\x1b' :: '[' :: cs =>
    match cs.dropWhile isParameter with
    | 'm' :: rest => some rest
    | _ => none
  | _ => none

theorem length_behindSequence_lt {cs rest : List Char} (h : behindSequence? cs = some rest) :
    rest.length < cs.length := by
  unfold behindSequence? at h
  split at h
  · rename_i cs
    split at h
    · rename_i rest' found
      obtain rfl := Option.some.inj h
      have := (List.dropWhile_sublist (l := cs) isParameter).length_le
      rw [found] at this
      simp only [List.length_cons] at this ⊢
      omega
    · cases h
  · cases h

/-- The characters without the escape sequences among them. -/
def stripped (cs : List Char) : List Char :=
  match h : behindSequence? cs with
  | some rest =>
    have := length_behindSequence_lt h
    stripped rest
  | none =>
    match cs with
    | [] => []
    | c :: cs => c :: stripped cs
termination_by cs.length

/-- A text without the escape sequences in it. -/
def strip (s : String) : String := .ofList (stripped s.toList)

theorem stripped_nil : stripped [] = [] := by
  unfold stripped
  rfl

theorem stripped_cons {c : Char} (bare : c ≠ '\x1b') (cs : List Char) :
    stripped (c :: cs) = c :: stripped cs := by
  have none : behindSequence? (c :: cs) = none := by
    unfold behindSequence?
    split
    · rename_i eq
      cases eq
      exact absurd rfl bare
    · rfl
  rw [stripped]
  split
  · rename_i found
    cases none.symm.trans found
  · rfl

theorem stripped_sequence {code : String} (parameters : ∀ c ∈ code.toList, isParameter c = true)
    (rest : List Char) : stripped ((sequence code).toList ++ rest) = stripped rest := by
  have whole : (sequence code).toList ++ rest = '\x1b' :: '[' :: (code.toList ++ 'm' :: rest) := by
    simp [sequence]
  have found : behindSequence? ('\x1b' :: '[' :: (code.toList ++ 'm' :: rest)) = some rest := by
    rw [behindSequence?, List.dropWhile_append_of_pos parameters]
    rfl
  rw [whole, stripped]
  split
  · rename_i found'
    cases found.symm.trans found'
    rfl
  · rename_i none
    cases found.symm.trans none

/-! ### Plain text -/

/-- A text has no escape character. -/
def Plain (s : String) : Prop := ∀ c ∈ s.toList, c ≠ '\x1b'

instance (s : String) : Decidable (Plain s) :=
  decidable_of_iff (s.toList.all fun c => c != '\x1b') (by simp [Plain])

namespace Plain

variable {s t : String}

theorem append (hs : Plain s) (ht : Plain t) : Plain (s ++ t) := by
  intro c hc
  rw [String.toList_append] at hc
  exact (List.mem_append.1 hc).elim (hs c) (ht c)

/-- Some of the characters of a plain text. -/
theorem of_subset (hs : Plain s) (h : t.toList ⊆ s.toList) : Plain t := fun c hc => hs c (h hc)

theorem spaces (n : Nat) : Plain (Text.spaces n) := by
  intro c hc
  rw [Text.spaces, String.toList_ofList] at hc
  rw [List.eq_of_mem_replicate hc]
  decide

theorem padLeft (hs : Plain s) (width : Nat) : Plain (Text.padLeft width s) := (spaces _).append hs

theorem padRight (hs : Plain s) (width : Nat) : Plain (Text.padRight width s) :=
  hs.append (spaces _)

theorem first (hs : Plain s) (n : Nat) : Plain (Text.first n s) := by
  refine hs.of_subset ?_
  rw [Text.first, String.toList_ofList]
  exact List.take_subset _ _

theorem fit (hs : Plain s) (width : Nat) : Plain (Text.fit width s) := by
  unfold Text.fit
  split_ifs
  · exact hs
  · exact (hs.first _).append (by decide +kernel)
  · exact hs.first _

theorem trimEnd (hs : Plain s) : Plain (Text.trimEnd s) := by
  refine hs.of_subset fun c hc => ?_
  rw [Text.trimEnd, Text.trimRight, String.toList_ofList, List.mem_reverse] at hc
  exact List.mem_reverse.1 (List.dropWhile_subset _ hc)

/-- Numbers are printed without escape characters. -/
theorem of_printed (h : Printed s) : Plain s := by
  rintro c hc rfl
  exact h.not_mem rfl hc

theorem natRepr (n : Nat) : Plain (Nat.repr n) := of_printed (.natRepr n)

theorem intRepr (i : Int) : Plain (Int.repr i) := of_printed (.intRepr i)

theorem fixed (places : Nat) (x : Float) : Plain (Number.fixed places x) :=
  of_printed (.fixed places x)

end Plain

/-! ### Dressed text -/

/-- A dressed text reads as a bare one, whatever stands behind it. -/
def Dresses (dressed bare : String) : Prop :=
  ∀ rest, stripped (dressed.toList ++ rest) = bare.toList ++ stripped rest

namespace Dresses

variable {s s' t t' : String}

theorem strip_eq (h : Dresses s t) : strip s = t := by
  have := h []
  rw [List.append_nil, stripped_nil, List.append_nil] at this
  rw [strip, this, String.ofList_toList]

theorem of_plain (h : Plain s) : Dresses s s := by
  intro rest
  induction hs : s.toList generalizing s with
  | nil => rfl
  | cons c cs ih =>
    have head : c ≠ '\x1b' := h c (by simp [hs])
    have tail := @ih (.ofList cs) (fun d hd => h d (by simp_all)) (by simp)
    rw [List.cons_append, stripped_cons head, tail, List.cons_append]

theorem append (h : Dresses s t) (h' : Dresses s' t') : Dresses (s ++ s') (t ++ t') := by
  intro rest
  rw [String.toList_append, String.toList_append, List.append_assoc, h, h', List.append_assoc]

/-- An escape sequence reads as nothing. -/
theorem sequence {code : String} (parameters : code.toList.all isParameter = true) :
    Dresses (Ink.sequence code) "" :=
  fun rest => stripped_sequence (List.all_eq_true.1 parameters) rest

theorem dress (h : Dresses s t) (ink : Ink) : Dresses (ink.dress s) t := by
  have start : Dresses (Ink.sequence ink.start) "" := sequence (by cases ink <;> decide +kernel)
  have stop : Dresses (Ink.sequence ink.stop) "" := sequence (by cases ink <;> decide +kernel)
  have whole := (start.append h).append stop
  rwa [String.empty_append, String.append_empty] at whole

theorem paint (h : Dresses s t) (inks : List Ink) : Dresses (Ink.paint true inks s) t := by
  show Dresses (inks.foldl (fun s ink => ink.dress s) s) t
  induction inks generalizing s with
  | nil => exact h
  | cons ink inks ih => exact ih (h.dress ink)

theorem joinWith {separator : String} (plain : Plain separator) {ss ts : List String}
    (h : List.Forall₂ Dresses ss ts) :
    Dresses (Text.joinWith separator ss) (Text.joinWith separator ts) := by
  induction h with
  | nil => exact of_plain (s := "") (by decide +kernel)
  | cons first later ih =>
    cases later with
    | nil => exact first
    | cons => exact (first.append (of_plain plain)).append ih

theorem lines {ss ts : List String} (h : List.Forall₂ Dresses ss ts) :
    Dresses (Text.lines ss) (Text.lines ts) := joinWith (by decide +kernel) h

end Dresses

end CallToAction.Ink
