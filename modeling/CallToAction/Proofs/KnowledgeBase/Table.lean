import CallToAction.KnowledgeBase.Catalogue
import Mathlib.Data.Nat.Notation
import Mathlib.Tactic.SplitIfs

/-!
# The table of rules on a terminal

The columns before the condition have a fixed width as long as their texts fit, so cutting the
condition to what is left of a terminal is cutting the whole row to the terminal.  Widths are
subtracted and characters are taken only where there are enough of them: with both checked, every
width leads to the same text.

* `Text.append_fit`: cutting the end of a text is cutting the text;
* `Text.fit?`, `Catalogue.conditionColumn?`: the same texts with every step checked;
* `Catalogue.length_heading`: the width of the columns before the condition;
* `Catalogue.table_rows`: the rows of a table, on a terminal and without one.
-/

namespace CallToAction

/-! ### Cutting texts -/

namespace Text

theorem length_spaces (n : ℕ) : (spaces n).length = n := by
  rw [spaces, String.length_ofList, List.length_replicate]

theorem length_padLeft {width : ℕ} {s : String} (h : s.length ≤ width) :
    (padLeft width s).length = width := by
  rw [padLeft, String.length_append, length_spaces]
  omega

theorem length_padRight {width : ℕ} {s : String} (h : s.length ≤ width) :
    (padRight width s).length = width := by
  rw [padRight, String.length_append, length_spaces]
  omega

theorem first_append (n : ℕ) (s t : String) : first (s.length + n) (s ++ t) = s ++ first n t := by
  rw [← String.toList_inj, first, first, String.toList_append, String.toList_append,
    String.toList_ofList, String.toList_ofList, ← String.length_toList, List.take_length_add_append]

/-- Behind a text that is kept whole, cutting the end is cutting the whole: three dots leave room
for text on both sides. -/
theorem append_fit {n : ℕ} (room : 3 < n) (s t : String) :
    s ++ fit n t = fit (s.length + n) (s ++ t) := by
  have whole : (s ++ t).length ≤ s.length + n ↔ t.length ≤ n := by
    rw [String.length_append]
    omega
  unfold fit
  simp only [whole]
  split_ifs with fits wide
  · rfl
  · rw [← String.append_assoc, ← first_append, Nat.add_sub_assoc (Nat.le_of_lt room)]
  · omega

/-! ### Checked steps -/

/-- Subtraction that does not go below zero. -/
def minus? (a b : ℕ) : Option ℕ := if b ≤ a then some (a - b) else none

/-- The first `n` characters of a text that has as many. -/
def first? (n : ℕ) (s : String) : Option String :=
  if n ≤ s.length then some (first n s) else none

/-- The text cut to a column, with every step checked. -/
def fit? (width : ℕ) (s : String) : Option String :=
  if s.length ≤ width then some s
  else if 3 < width then do
    let room ← minus? width 3
    let kept ← first? room s
    pure (kept ++ "...")
  else first? width s

/-- No step of cutting a text fails, whatever the width. -/
theorem fit?_eq (width : ℕ) (s : String) : fit? width s = some (fit width s) := by
  unfold fit? fit
  split_ifs with fits wide
  · rfl
  · have room : minus? width 3 = some (width - 3) := if_pos (Nat.le_of_lt wide)
    have kept : first? (width - 3) s = some (first (width - 3) s) := if_pos (by omega)
    rw [room, Option.bind_eq_bind, Option.bind_some, kept]
    rfl
  · exact if_pos (by omega)

end Text

namespace Catalogue

/-- The width of the last column, with every step checked. -/
def conditionWidth? (columns : ℕ) : Option ℕ :=
  if fixedWidth + 10 < columns then Text.minus? columns fixedWidth else some 20

/-- The text in the last column, with every step checked. -/
def conditionColumn? (columns : Option ℕ) (e : RuleEntry) : Option String :=
  match columns with
  | some n => do Text.fit? (← conditionWidth? n) e.condition
  | none => some e.condition

theorem conditionWidth?_eq (columns : ℕ) :
    conditionWidth? columns = some (conditionWidth columns) := by
  unfold conditionWidth? conditionWidth
  split_ifs with wide
  · exact if_pos (by omega)
  · rfl

/-- No step of cutting a condition fails, whatever the terminal. -/
theorem conditionColumn?_eq (columns : Option ℕ) (e : RuleEntry) :
    conditionColumn? columns e = some (conditionColumn columns e) := by
  cases columns with
  | none => rfl
  | some n =>
    rw [conditionColumn?, conditionWidth?_eq, Option.bind_eq_bind, Option.bind_some, Text.fit?_eq]
    rfl

/-! ### Rows -/

/-- The texts of an entry fit the columns before the condition. -/
structure Fits (e : RuleEntry) : Prop where
  id : e.id.length ≤ 4
  priority : (Int.repr e.priority).length ≤ 4
  certainty : (Number.fixed 2 e.certainty).length = 4

/-- What stands before the condition in the row of an entry. -/
def heading (e : RuleEntry) : String :=
  Text.joinWith ""
    [Text.padRight 4 e.id, " ", Text.padLeft 4 (Int.repr e.priority), "  ",
      Number.fixed 2 e.certainty, "  ", Text.padRight 12 e.category.text, "  "]

theorem row_eq (columns : Option ℕ) (e : RuleEntry) :
    row columns false e = heading e ++ conditionColumn columns e := by
  simp [row, heading, Text.joinWith, String.append_assoc]

variable {e : RuleEntry}

/-- The columns before the condition are as wide as they are said to be. -/
theorem length_heading (fits : Fits e) : (heading e).length = fixedWidth := by
  have category : e.category.text.length ≤ 12 := by cases e.category <;> decide
  have one : " ".length = 1 := rfl
  have two : "  ".length = 2 := rfl
  simp only [heading, Text.joinWith, String.append_empty, String.length_append, one, two,
    Text.length_padRight fits.id, Text.length_padLeft fits.priority, fits.certainty,
    Text.length_padRight category]
  rfl

/-- On a terminal a row is cut as a whole. -/
theorem row_some (fits : Fits e) {w : ℕ} (wide : 42 ≤ w) :
    row (some w) false e = Text.fit w (row none false e) := by
  have fixed : fixedWidth = 31 := rfl
  have width : conditionWidth w = w - fixedWidth := if_pos (by omega)
  have whole : (heading e).length + (w - fixedWidth) = w := by
    rw [length_heading fits]
    omega
  rw [row_eq, row_eq, conditionColumn, conditionColumn, width,
    Text.append_fit (by omega) (heading e) e.condition, whole]

theorem table_eq {c : Catalogue} (some : c.entries ≠ []) (columns : Option ℕ) (colors : Bool) :
    c.table columns colors =
      Text.lines (c.entries.map (row columns colors) ++ [s!"{Nat.repr c.total} rules"]) := by
  rw [table, if_neg (by simpa using some)]

/-- **A table has a row for each rule, none of them wider than the terminal.**  Where the columns
before the condition hold their texts, a row on a terminal with at least 42 columns is the row that
is shown without a terminal, cut to the terminal if it is wider and marked by three dots then.  On
no terminal is a number subtracted from a smaller one or a text asked for characters that it does
not have. -/
theorem table_rows (c : Catalogue) :
    (c.entries ≠ [] → (∀ e ∈ c.entries, Fits e) → ∀ w, 42 ≤ w →
      let count := s!"{Nat.repr c.total} rules"
      let whole := c.entries.map (row none false)
      let rows := whole.map fun r => if r.length ≤ w then r else Text.first (w - 3) r ++ "..."
      c.table none false = Text.lines (whole ++ [count]) ∧
        c.table (some w) false = Text.lines (rows ++ [count]) ∧ ∀ r ∈ rows, r.length ≤ w) ∧
      (∀ columns e, conditionColumn? columns e = some (conditionColumn columns e)) ∧
      ∀ width s, Text.fit? width s = some (Text.fit width s) := by
  refine ⟨?_, conditionColumn?_eq, Text.fit?_eq⟩
  intro nonempty fits w wide count whole rows
  have cut (r : String) :
      (if r.length ≤ w then r else Text.first (w - 3) r ++ "...") = Text.fit w r := by
    rw [Text.fit, if_pos (by omega : 3 < w)]
  have shown : c.entries.map (row (some w) false) = rows := by
    simp only [rows, whole, List.map_map]
    refine List.map_congr_left fun e he => ?_
    rw [Function.comp_apply, cut, row_some (fits e he) wide]
  refine ⟨table_eq nonempty none false, shown ▸ table_eq nonempty (some w) false, fun r hr => ?_⟩
  obtain ⟨r, -, rfl⟩ := List.mem_map.1 hr
  rw [cut]
  exact Text.length_fit_le w r

/-- Two rules on the narrowest terminal for which rows are cut as a whole: one row is kept, and one
is cut. -/
theorem table_rows_narrow :
    let c : Catalogue :=
      ⟨2, [⟨"V2", 9, 0.9, "", "", .visibility, "time < 3"⟩,
        ⟨"C1", -10, 0.95, "", "", .clickability, "cta_width < 180"⟩]⟩
    let rows :=
      ["V2      9  0.90  visibility    time < 3", "C1    -10  0.95  clickability  cta_widt..."]
    c.table (some 42) false = Text.lines (rows ++ ["2 rules"]) ∧ ∀ r ∈ rows, r.length ≤ 42 := by
  intro c rows
  have fits : ∀ e ∈ c.entries, Fits e := by
    intro e he
    simp only [c, List.mem_cons, List.not_mem_nil, or_false] at he
    rcases he with rfl | rfl
    · exact ⟨by decide, by decide, by decide +kernel⟩
    · exact ⟨by decide, by decide, by decide +kernel⟩
  obtain ⟨-, shown, narrow⟩ := (table_rows c).1 (by simp [c]) fits 42 (by decide)
  have same : ((c.entries.map (row none false)).map fun r =>
      if r.length ≤ 42 then r else Text.first (42 - 3) r ++ "...") = rows := by decide +kernel
  have count : s!"{Nat.repr c.total} rules" = "2 rules" := by decide
  rw [same] at shown narrow
  exact ⟨count ▸ shown, narrow⟩

end Catalogue

end CallToAction
