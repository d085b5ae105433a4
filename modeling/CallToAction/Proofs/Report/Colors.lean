import CallToAction.Batch.Listing
import CallToAction.KnowledgeBase.Catalogue
import CallToAction.KnowledgeBase.Standard
import CallToAction.Proofs.Text.Ink

/-!
# Colors never change a text

Whatever is shown on a terminal reads the same with colors and without: taking the escape sequences
out of the colored text leaves the plain one.  What is put into a text must have no escape
characters of its own; numbers and the words of this library have none.

* `Report.Plain`, `Catalogue.Plain`, `PageOutcome.Plain`: what is shown has no escape characters;
* `dresses_summaryLines`, `dresses_recommendationLines`, `dresses_row`, `dresses_outcomeLine`: line
  by line, the colored text reads as the plain one, also where the two are composed apart;
* `strip_colored`: all texts as a whole.
-/

namespace CallToAction

open Ink (Plain Dresses)

/-- The texts of a digest that are shown have no escape characters. -/
structure Digest.Plain (d : Digest) : Prop where
  overall : Ink.Plain d.summary.overall
  average : Ink.Plain d.summary.average
  recommendations : ∀ s ∈ d.recommendations, Ink.Plain s

/-- The texts of a report that are shown have no escape characters. -/
structure Report.Plain (r : Report) : Prop where
  overall : Ink.Plain r.summary.overall
  average : Ink.Plain r.summary.average
  recommendations : ∀ s ∈ r.recommendations, Ink.Plain s
  reasoning : Ink.Plain r.reasoning

/-- The texts of a catalogue that are shown have no escape characters. -/
def Catalogue.Plain (c : Catalogue) : Prop :=
  ∀ e ∈ c.entries, Ink.Plain e.id ∧ Ink.Plain e.condition

/-- The name and the error of an outcome have no escape characters. -/
structure PageOutcome.Plain (o : PageOutcome) : Prop where
  source : Ink.Plain o.source
  error : ∀ e, o.result = .error e → Ink.Plain e.message

/-! ### Words and numbers -/

theorem Grade.plain_text (g : Grade) : Plain g.text := by cases g <;> decide

theorem CertaintyLevel.plain_text (l : CertaintyLevel) : Plain l.text := by cases l <;> decide

theorem Category.plain_text (c : Category) : Plain c.text := by cases c <;> decide

theorem plain_percentage (c : Float) : Plain (percentage c) := (Plain.fixed 0 _).append (by decide)

/-! ### Reports -/

namespace Terminal

theorem dresses_graded (g : Grade) {s t : String} (h : Dresses s t) :
    Dresses (graded true g s) (graded false g t) := h.paint _

theorem dresses_score (n : Nat) : Dresses (score true n) (score false n) :=
  dresses_graded _ (.of_plain (((Plain.natRepr n).padLeft 3).append (by decide)))

/-- The columns of a line are dressed one by one. -/
theorem dresses_columns {ss ts : List String} (h : List.Forall₂ Dresses ss ts) :
    Dresses (Text.joinWith "  " ss) (Text.joinWith "  " ts) := .joinWith (by decide) h

theorem dresses_summaryLines (visibility clickability : Nat) (certainty : Float) {summary : Summary}
    (overall : Plain summary.overall) (average : Plain summary.average) :
    List.Forall₂ Dresses (summaryLines true visibility clickability certainty summary)
      (summaryLines false visibility clickability certainty summary) := by
  have heading {s : String} (plain : Plain s) :
      Dresses (Ink.paint true [.bold] s) (Ink.paint false [.bold] s) := .paint (.of_plain plain) _
  have judgement : Dresses
      (graded true summary.grade summary.overall ++ " (average " ++ summary.average ++ ")")
      (graded false summary.grade summary.overall ++ " (average " ++ summary.average ++ ")") :=
    (((dresses_graded _ (.of_plain overall)).append (.of_plain (by decide))).append
      (.of_plain average)).append (.of_plain (by decide))
  refine .cons (dresses_columns ?_) (.cons (dresses_columns ?_) (.cons (dresses_columns ?_)
    (.cons (dresses_columns ?_) .nil)))
  · exact .cons (heading (by decide)) (.cons (dresses_score _)
      (.cons (.of_plain (Grade.plain_text _)) .nil))
  · exact .cons (heading (by decide)) (.cons (dresses_score _)
      (.cons (.of_plain (Grade.plain_text _)) .nil))
  · exact .cons (heading (by decide)) (.cons (.of_plain ((plain_percentage _).padLeft 7))
      (.cons (.of_plain (CertaintyLevel.plain_text _)) .nil))
  · exact .cons (heading (by decide)) (.cons judgement .nil)

/-- Lines that are numbered are dressed one by one. -/
theorem dresses_numbered {α : Type} {f g : α × Nat → String} (xs : List α) (start : Nat)
    (h : ∀ x ∈ xs, ∀ n, Dresses (f (x, n)) (g (x, n))) :
    List.Forall₂ Dresses ((xs.zipIdx start).map f) ((xs.zipIdx start).map g) := by
  rw [List.forall₂_map_left_iff, List.forall₂_map_right_iff]
  exact List.forall₂_same.2 fun (x, n) hx => h x (List.fst_mem_of_mem_zipIdx hx) n

theorem dresses_recommendationLine (number : Nat) {s : String} (plain : Plain s) :
    Dresses (recommendationLine true number s) (recommendationLine false number s) := by
  have index : Plain (Text.padLeft 2 (Nat.repr number) ++ ".") :=
    ((Plain.natRepr number).padLeft 2).append (by decide)
  exact (((Dresses.of_plain index).dress _).append (.of_plain (by decide))).append (.of_plain plain)

theorem dresses_recommendationLines (limit : Nat) {recommendations : List String}
    (plain : ∀ s ∈ recommendations, Plain s) :
    List.Forall₂ Dresses (recommendationLines true limit recommendations)
      (recommendationLines false limit recommendations) := by
  have heading : Dresses (Ink.bold.dress "Recommendations:") "Recommendations:" :=
    .dress (.of_plain (by decide)) _
  have more (n : Nat) : Plain ("    ... and " ++ Nat.repr n ++ " more") :=
    (Plain.append (by decide) (Plain.natRepr n)).append (by decide)
  simp only [recommendationLines, if_true, Bool.false_eq_true, if_false]
  split_ifs with none many
  · exact .cons (.of_plain (by decide)) .nil
  all_goals
    refine List.rel_append (List.rel_append (.cons heading .nil) ?_) ?_
    · refine dresses_numbered _ _ fun s hs n => ?_
      exact dresses_recommendationLine n (plain s (List.mem_of_mem_take hs))
  · exact .cons (.of_plain (more _)) .nil
  · exact .nil

theorem dresses_report (limit : Nat) {r : Report} (plain : r.Plain) :
    Dresses (report true limit r) (report false limit r) := by
  have blank : List.Forall₂ Dresses [""] [""] := .cons (.of_plain (by decide)) .nil
  have trace : List.Forall₂ Dresses ["", Text.trimEnd r.reasoning] ["", Text.trimEnd r.reasoning] :=
    .cons (.of_plain (by decide)) (.cons (.of_plain plain.reasoning.trimEnd) .nil)
  have summary := dresses_summaryLines r.visibility r.clickability r.certainty plain.overall
    plain.average
  exact .lines (List.rel_append (List.rel_append (List.rel_append summary blank)
    (dresses_recommendationLines limit plain.recommendations)) trace)

theorem dresses_digest {d : Digest} (plain : d.Plain) :
    Dresses (digest true d) (digest false d) := by
  have blank : List.Forall₂ Dresses [""] [""] := .cons (.of_plain (by decide)) .nil
  have summary := dresses_summaryLines d.visibility d.clickability d.certainty plain.overall
    plain.average
  exact .lines (List.rel_append (List.rel_append summary blank)
    (dresses_recommendationLines _ plain.recommendations))

/-! ### Batches -/

theorem dresses_place (n : Nat) :
    Dresses (Ink.paint true [.dimmed] (Text.padLeft 2 (Nat.repr n) ++ "."))
      (Ink.paint false [.dimmed] (Text.padLeft 2 (Nat.repr n) ++ ".")) :=
  .paint (.of_plain (((Plain.natRepr n).padLeft 2).append (by decide))) _

theorem dresses_outcomeLine (number : Nat) {o : PageOutcome} (plain : o.Plain) :
    Dresses (outcomeLine true number o) (outcomeLine false number o) := by
  unfold outcomeLine
  cases result : o.result with
  | ok r =>
    refine .append ?_ (.of_plain plain.source)
    refine .append ?_ (.of_plain (by decide))
    refine .append ?_ (.of_plain ((plain_percentage _).padLeft 4))
    refine .append ?_ (.of_plain (by decide))
    refine .append ?_ (dresses_score _)
    refine .append ?_ (.of_plain (by decide))
    refine .append ?_ (dresses_score _)
    exact (dresses_place number).append (.of_plain (by decide))
  | error e =>
    have message : Plain ("error: " ++ e.message) :=
      Plain.append (by decide) (plain.error e result)
    refine .append ?_ ((Dresses.of_plain message).paint _)
    refine .append ?_ (.of_plain (by decide))
    refine .append ?_ (.of_plain plain.source)
    exact (dresses_place number).append (.of_plain (by decide))

theorem dresses_outcomes {os : List PageOutcome} (plain : ∀ o ∈ os, o.Plain) :
    Dresses (outcomes true os) (outcomes false os) := by
  unfold outcomes
  split_ifs
  · exact .of_plain (by decide)
  · exact .lines (dresses_numbered _ _ fun o ho n => dresses_outcomeLine n (plain o ho))

end Terminal

/-! ### Catalogues -/

namespace Catalogue

theorem dresses_row (columns : Option Nat) {e : RuleEntry} (id : Ink.Plain e.id)
    (condition : Ink.Plain e.condition) :
    Dresses (row columns true e) (row columns false e) := by
  have word {s : String} (h : Ink.Plain s) : Dresses s s := .of_plain h
  have column : Ink.Plain (conditionColumn columns e) := by
    cases columns with
    | none => exact condition
    | some n => exact condition.fit _
  refine .append ?_ (word column)
  refine .append ?_ (word (by decide))
  refine .append ?_ ((word ((Category.plain_text _).padRight 12)).dress _)
  refine .append ?_ (word (by decide))
  refine .append ?_ (word (Ink.Plain.fixed 2 _))
  refine .append ?_ (word (by decide))
  refine .append ?_ (word ((Ink.Plain.intRepr _).padLeft 4))
  exact ((word (id.padRight 4)).dress _).append (word (by decide))

theorem dresses_table (columns : Option Nat) {c : Catalogue} (plain : c.Plain) :
    Dresses (table columns true c) (table columns false c) := by
  unfold table
  split_ifs
  · exact .of_plain (by decide)
  · refine .lines (List.rel_append ?_ (.cons (.of_plain ?_) .nil))
    · rw [List.forall₂_map_left_iff, List.forall₂_map_right_iff]
      exact List.forall₂_same.2 fun e he => dresses_row columns (plain e he).1 (plain e he).2
    · exact (Ink.Plain.natRepr _).append (by decide)

end Catalogue

/-- **Colors never change what is shown.**  Without its escape sequences the colored text of a
score, a report, a digest, a catalogue and a batch is the text without colors, if none of the texts
that are put into it has escape characters. -/
theorem Ink.strip_colored :
    (∀ score, strip (Terminal.score true score) = Terminal.score false score) ∧
      (∀ limit (r : Report), r.Plain →
        strip (Terminal.report true limit r) = Terminal.report false limit r) ∧
      (∀ d : Digest, d.Plain → strip (Terminal.digest true d) = Terminal.digest false d) ∧
      (∀ columns (c : Catalogue), c.Plain → strip (c.table columns true) = c.table columns false) ∧
      ∀ os : List PageOutcome, (∀ o ∈ os, o.Plain) →
        strip (Terminal.outcomes true os) = Terminal.outcomes false os :=
  ⟨fun score => (Terminal.dresses_score score).strip_eq,
    fun limit _ plain => (Terminal.dresses_report limit plain).strip_eq,
    fun _ plain => (Terminal.dresses_digest plain).strip_eq,
    fun columns _ plain => (Catalogue.dresses_table columns plain).strip_eq,
    fun _ plain => (Terminal.dresses_outcomes plain).strip_eq⟩

/-- A digest, a catalogue on a narrow terminal and a batch with a failed page, each of them
colored. -/
theorem Ink.strip_colored_narrow :
    let d : Digest := ⟨100, 40, 0.9, ["CTA text is too long"], .ofScores 100 40 0.9⟩
    let c := KnowledgeBase.catalogue ⟨KnowledgeBase.standard.rules.take 2⟩
    let os : List PageOutcome :=
      [⟨"a.json", .error (.failed ⟨"Failed to read fact file at a.json",
        ["No such file or directory (os error 2)"]⟩)⟩]
    (strip (Terminal.digest true d) = Terminal.digest false d ∧
        Terminal.digest true d ≠ Terminal.digest false d) ∧
      (strip (c.table (some 40) true) = c.table (some 40) false ∧
        c.table (some 40) true ≠ c.table (some 40) false) ∧
      strip (Terminal.outcomes true os) = Terminal.outcomes false os ∧
        Terminal.outcomes true os ≠ Terminal.outcomes false os := by
  intro d c os
  have digest : d.Plain := ⟨by decide +kernel, by decide +kernel, by decide +kernel⟩
  have catalogue : c.Plain := by
    show ∀ e ∈ c.entries, Plain e.id ∧ Plain e.condition
    decide +kernel
  have outcomes : ∀ o ∈ os, o.Plain := by
    intro o ho
    obtain rfl := List.mem_singleton.1 ho
    refine ⟨by decide +kernel, fun e failed => ?_⟩
    cases failed
    decide +kernel
  obtain ⟨-, -, ofDigest, ofCatalogue, ofOutcomes⟩ := strip_colored
  exact ⟨⟨ofDigest d digest, by decide +kernel⟩,
    ⟨ofCatalogue (some 40) c catalogue, by decide +kernel⟩, ofOutcomes os outcomes,
    by decide +kernel⟩

end CallToAction
