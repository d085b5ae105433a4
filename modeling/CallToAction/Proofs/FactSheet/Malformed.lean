import CallToAction.Proofs.FactSheet.Operation
import CallToAction.Proofs.Number.Literal
import CallToAction.Proofs.Text.Trimming

/-!
# Malformed assignments

An assignment is the name of a fact, an equals sign and the literal of a number.  A text that is not
of this form is malformed for one of three reasons: it has no equals sign, there is no such fact, or
there is no such number.  Of many texts every malformed one is reported, in order.

* `Assignment.Writes`: what an assignment looks like;
* `Assignment.Malformed`: what is wrong with any other text;
* `Assignment.Reports`: what is reported of many texts;
* `ofText_eq_ok_iff_writes`, `ofText_eq_error_iff`: how a text is read;
* `reports_iff`: what is reported of many texts is settled;
* `FactSheet.assigned_eq_run`: what is assigned comes of one assignment after another.
-/

namespace CallToAction

namespace Assignment

/-- A text gives a fact the number of a literal: up to its first equals sign it is the name of the
fact, and behind it the literal, with white space around the name and the literal. -/
def Writes (text : String) (key : Fact) (l : Literal) : Prop :=
  ∃ before after number : List Char, text.toList = before ++ '=' :: after ∧ '=' ∉ before ∧
    Text.Trims before key.name.toList ∧ Text.Trims after number ∧ Literal.Spells number l

/-- What is wrong with a text that is no assignment. -/
inductive Malformed (text : String) : Error → Prop
  | noEquals (absent : '=' ∉ text.toList) : Malformed text (.noEquals text)
  | unknownFact {before after : List Char} {name : String}
    (whole : text.toList = before ++ '=' :: after) (first : '=' ∉ before)
    (trimmed : Text.Trims before name.toList) (unknown : ∀ key : Fact, name ≠ key.name) :
    Malformed text (.unknownFact name)
  | invalidNumber {before after : List Char} {key : Fact} {number : String}
    {cause : Number.ReadError} (whole : text.toList = before ++ '=' :: after)
    (first : '=' ∉ before) (named : Text.Trims before key.name.toList)
    (trimmed : Text.Trims after number.toList)
    (unspelled : ∀ l, ¬ Literal.Spells number.toList l)
    (caused : number = "" ∧ cause = .empty ∨ number ≠ "" ∧ cause = .invalid) :
    Malformed text (.invalidNumber key number cause)

/-- What is reported of texts: each malformed one, in order. -/
inductive Reports : List String → List (String × Error) → Prop
  | nil : Reports [] []
  | written {text : String} {texts : List String} {errors : List (String × Error)} {key : Fact}
    {l : Literal} (writes : Writes text key l) (rest : Reports texts errors) :
    Reports (text :: texts) errors
  | malformed {text : String} {texts : List String} {errors : List (String × Error)} {e : Error}
    (malformed : Malformed text e) (rest : Reports texts errors) :
    Reports (text :: texts) ((text, e) :: errors)

/-! ### One text -/

theorem assigns_iff {text : String} {key : Fact} {v : Float} :
    Assigns text key v ↔ ∃ l, Writes text key l ∧ v = l.toFloat := by
  constructor
  · rintro ⟨before, after, whole, first, named, number⟩
    obtain ⟨l, spelled, rfl⟩ := Number.read_eq_ok_iff.1 number
    have named := Text.trim_ofList_eq_iff.1 named
    have trimmed := Text.trim_ofList_eq_iff.1 (Eq.refl (Text.trim (.ofList after)))
    exact ⟨l, ⟨before, after, _, whole, first, named, trimmed, spelled⟩, rfl⟩
  · rintro ⟨l, ⟨before, after, number, whole, first, named, trimmed, spelled⟩, rfl⟩
    have number_eq : Text.trim (.ofList after) = .ofList number := by
      rwa [Text.trim_ofList_eq_iff, String.toList_ofList]
    refine ⟨before, after, whole, first, Text.trim_ofList_eq_iff.2 named, ?_⟩
    rw [number_eq, Number.read_eq_ok_iff]
    exact ⟨l, by rwa [String.toList_ofList], rfl⟩

theorem ofText_eq_ok_iff_writes {text : String} {a : Assignment} :
    ofText text = .ok a ↔ ∃ l, Writes text a.fact l ∧ a.value = l.toFloat := by
  rw [ofText_eq_ok_iff, assigns_iff]

theorem split?_eq_none_iff (text : String) : split? text = none ↔ '=' ∉ text.toList := by
  constructor
  · intro missing given
    obtain ⟨before, after, whole, first⟩ := List.eq_append_cons_of_mem given
    cases missing.symm.trans (split?_of_first whole first)
  · intro absent
    refine Option.eq_none_iff_forall_ne_some.2 fun (key, value) parts => absent ?_
    rw [((split?_eq_some_iff text key value).1 parts).1]
    exact List.mem_append_right _ List.mem_cons_self

theorem ofText_eq_error_iff {text : String} {e : Error} :
    ofText text = .error e ↔ Malformed text e := by
  constructor
  · intro h
    unfold ofText at h
    split at h
    · rename_i missing
      cases h
      exact .noEquals ((split?_eq_none_iff text).1 missing)
    · rename_i key value parts
      obtain ⟨whole, first⟩ := (split?_eq_some_iff _ _ _).1 parts
      split at h
      · rename_i unknown
        cases h
        refine .unknownFact whole first (Text.trim_eq_iff.1 rfl) fun fact named => ?_
        cases unknown.symm.trans (Fact.ofText?_eq_some_iff.2 named)
      · rename_i fact found
        have named := Text.trim_eq_iff.1 (Fact.ofText?_eq_some_iff.1 found)
        split at h
        · rename_i cause refused
          cases h
          obtain ⟨unspelled, caused⟩ := Number.read_eq_error_iff.1 refused
          exact .invalidNumber whole first named (Text.trim_eq_iff.1 rfl) unspelled caused
        · cases h
  · intro malformed
    unfold ofText
    cases malformed with
    | noEquals absent => rw [(split?_eq_none_iff text).2 absent]
    | @unknownFact before after name whole first trimmed unknown =>
      have name_eq := Text.trim_ofList_eq_iff.2 trimmed
      have missing : Fact.ofText? (.ofList before) = none := by
        refine Option.eq_none_iff_forall_ne_some.2 fun key found => unknown key ?_
        exact name_eq.symm.trans (Fact.ofText?_eq_some_iff.1 found)
      simp only [split?_of_first whole first, missing, name_eq]
    | @invalidNumber before after key number cause whole first named trimmed unspelled caused =>
      have found := Fact.ofText?_eq_some_iff.2 (Text.trim_ofList_eq_iff.2 named)
      have number_eq := Text.trim_ofList_eq_iff.2 trimmed
      have refused := Number.read_eq_error_iff.2 ⟨unspelled, caused⟩
      simp only [split?_of_first whole first, found, number_eq, refused]

theorem ofText_of_writes {text : String} {key : Fact} {l : Literal} (writes : Writes text key l) :
    ofText text = .ok ⟨key, l.toFloat⟩ := ofText_eq_ok_iff_writes.2 ⟨l, writes, rfl⟩

theorem wellFormed_iff_writes {text : String} : WellFormed text ↔ ∃ key l, Writes text key l := by
  constructor
  · rintro ⟨a, read⟩
    obtain ⟨l, writes, -⟩ := ofText_eq_ok_iff_writes.1 read
    exact ⟨a.fact, l, writes⟩
  · rintro ⟨key, l, writes⟩
    exact ⟨_, ofText_of_writes writes⟩

/-! ### Many texts -/

theorem reports_filterMap (texts : List String) : Reports texts (texts.filterMap fault?) := by
  induction texts with
  | nil => exact .nil
  | cons text texts ih =>
    cases read : ofText text with
    | ok a =>
      obtain ⟨l, writes, -⟩ := ofText_eq_ok_iff_writes.1 read
      rw [List.filterMap_cons_none (by rw [fault?, read])]
      exact .written writes ih
    | error e =>
      rw [List.filterMap_cons_some (by rw [fault?, read])]
      exact .malformed (ofText_eq_error_iff.1 read) ih

theorem Reports.eq_filterMap {texts : List String} {errors : List (String × Error)}
    (h : Reports texts errors) : errors = texts.filterMap fault? := by
  induction h with
  | nil => rfl
  | written writes rest ih =>
    rw [List.filterMap_cons_none (by rw [fault?, ofText_of_writes writes]), ih]
  | malformed malformed rest ih =>
    rw [List.filterMap_cons_some (by rw [fault?, ofText_eq_error_iff.2 malformed]), ih]

/-- What is reported of texts is settled. -/
theorem reports_iff {texts : List String} {errors : List (String × Error)} :
    Reports texts errors ↔ errors = texts.filterMap fault? :=
  ⟨Reports.eq_filterMap, fun h => h ▸ reports_filterMap texts⟩

/-- Nothing is reported if all texts are assignments. -/
theorem filterMap_fault?_eq_nil_iff_writes (texts : List String) :
    texts.filterMap fault? = [] ↔ ∀ text ∈ texts, ∃ key l, Writes text key l := by
  simp only [filterMap_fault?_eq_nil_iff, wellFormed_iff_writes]

end Assignment

namespace FactSheet

open Assignment

theorem after_assign_of_error (s : FactSheet) {text : String} {e : Error}
    (read : ofText text = .error e) : s.after (.assign text) = s := by
  refine s.after_malformed fun key v given => ?_
  cases read.symm.trans ((ofText_eq_ok_iff text ⟨key, v⟩).2 given)

theorem carryOut_of_writes (s : FactSheet) {text : String} {key : Fact} {l : Literal}
    (writes : Writes text key l) : s.carryOut text = (s.set key l.toFloat, .ok ()) := by
  rw [carryOut, ofText_of_writes writes]
  rfl

theorem carryOut_of_malformed (s : FactSheet) {text : String} {e : Assignment.Error}
    (malformed : Malformed text e) : s.carryOut text = (s, .error e) := by
  rw [carryOut, ofText_eq_error_iff.2 malformed]

/-- The assignments among texts are carried out one after another. -/
theorem assigned_eq_run (texts : List String) : assigned texts = empty.run (texts.map .assign) := by
  rw [assigned, run, List.foldl_filterMap, List.foldl_map]
  refine List.foldl_ext _ _ _ fun s text _ => ?_
  cases read : ofText text with
  | ok a => exact (s.after_assign ((ofText_eq_ok_iff text a).1 read)).symm
  | error e => exact (s.after_assign_of_error read).symm

end FactSheet

end CallToAction
