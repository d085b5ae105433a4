import CallToAction.Proofs.Document.RoundTrip
import CallToAction.Proofs.Document.Yaml

/-!
# Sheets in both formats

A sheet of finite numbers is read as YAML from two kinds of texts: from the object that is written
for it as a JSON document, and from lines, one for each value, with blank lines and comments between
them.  So the two formats agree on what a page says.

* `FactSheet.LiteralsReadBack`: the numbers of a sheet are read as what they were;
* `InLines`: the texts of lines for a sheet;
* `ofDocument_braces`, `ofDocument_lines`: both kinds of texts are read;
* `ofDocument_yaml`: the sheet that is read.
-/

namespace CallToAction

open Yaml (Line Written)

namespace FactSheet

open Document

/-- The numbers that are written for the values of a sheet, on lines and in objects, are read as
literals of these values. -/
def LiteralsReadBack (s : FactSheet) : Prop :=
  ∀ fact v, s.get fact = some v → Number.read (Number.text v) = .ok v ∧
    ∀ t, Number.json? v = some t → Number.read t = .ok v

/-- An entry `name: value`. -/
def line (entry : Fact × Float) : Written where
  key := entry.1.name.toList
  value := (Number.text entry.2).toList

/-- An entry `"name":value`. -/
def member (entry : Fact × Float) : Written where
  key := entry.1.name.toList
  value := ((Number.json? entry.2).getD "null").toList

/-- A text has one line `name: value` for each value of a sheet, in any order, and blank lines and
comments before, between and behind these lines.  It holds no null character, and each of its line
breaks is of any kind. -/
def InLines (s : FactSheet) (text : String) : Prop :=
  ∃ (ls : List Line) (es : List (Fact × Float)), es.Perm s.present ∧
    Yaml.entries ls = es.map line ∧
    (∀ blanks comment, .filler blanks comment ∈ ls → (Line.filler blanks comment).Plain) ∧
    Yaml.unifyBreaks text.toList = Yaml.blockText ls ∧ '\x00' ∉ text.toList

variable {s : FactSheet}

/-! ### Texts -/

theorem escape_name (fact : Fact) :
    fact.name.toList.flatMap Json.escapeChar = fact.name.toList := by
  cases fact <;> decide

theorem flowText_member (entry : Fact × Float) :
    (Json.quote entry.1.name ++ ":" ++ Json.write .compact 1 (.float entry.2)).toList
      = (member entry).flowText := by
  simp [Json.quote, Json.write, escape_name, Written.flowText, member]

theorem flowText_members (es : List (Fact × Float)) :
    (Text.joinWith "," (Json.writeMembers .compact 1
      (es.map fun e => (e.1.name, .float e.2)))).toList = Yaml.flowText (es.map member) := by
  induction es with
  | nil => rfl
  | cons entry es ih =>
    cases es with
    | nil => exact flowText_member entry
    | cons next es =>
      change ((Json.quote entry.1.name ++ ":" ++ Json.write .compact 1 (.float entry.2)) ++ ","
        ++ Text.joinWith "," _).toList = (member entry).flowText ++ ',' :: Yaml.flowText _
      rw [String.toList_append, String.toList_append, flowText_member, ← ih]
      simp

/-- The object that is written for a sheet is a mapping in braces. -/
theorem toList_compact (s : FactSheet) :
    s.toJson.compact.toList = '\x7b' :: (Yaml.flowText (s.present.map member) ++ ['\x7d']) := by
  rw [← flowText_members, toJson, Json.compact, Json.write]
  cases s.present with
  | nil => rfl
  | cons entry es =>
    simp [Json.writeMembers, Json.Style.enclose, Json.Style.lineBreak]

theorem allBlank_of_mem {text : String} {c : Char} (h : c ∈ text.toList) (ink : isBlank c = false) :
    Text.allBlank text = false := by
  rw [Text.allBlank, List.all_eq_false]
  exact ⟨c, h, by simp [ink]⟩

theorem ofDocument_of_present {format : Format} {text : String} {es : List (Fact × Float)}
    (told : Tells format text (es.map fun (fact, v) => (fact, some v)))
    (order : es.Perm s.present) : ofDocument format text = .ok s :=
  ofDocument_of_tells told fun fact v => by simp [order.mem_iff, mem_present_iff]

/-! ### Entries -/

section

variable (finite : ∀ fact v, s.get fact = some v → v.isFinite = true) (back : s.LiteralsReadBack)
include finite back

theorem says_line {entry : Fact × Float} (known : entry ∈ s.present) : Says (line entry) entry := by
  obtain ⟨fact, v⟩ := entry
  have value := (s.mem_present_iff _ _).1 known
  exact ⟨rfl, Number.figures_text (finite fact v value),
    by simpa [line] using (back fact v value).1⟩

theorem says_member {entry : Fact × Float} (known : entry ∈ s.present) :
    Says (member entry) entry := by
  obtain ⟨fact, v⟩ := entry
  have value := (s.mem_present_iff _ _).1 known
  obtain ⟨t, printed⟩ : ∃ t, Number.json? v = some t := by
    rw [← Option.ne_none_iff_exists', Ne, Number.json?_eq_none_iff, finite fact v value]
    simp
  exact ⟨rfl, by simpa [member, printed] using Number.figures_json? printed,
    by simpa [member, printed] using (back fact v value).2 t printed⟩

/-- The object that is written for a sheet is read. -/
theorem ofDocument_braces : ofDocument .yaml s.toJson.compact = .ok s := by
  have told : ∀ entry ∈ s.present, Says (member entry) entry := fun _ => says_member finite back
  have plain : ∀ w ∈ s.present.map member, w.Plain :=
    List.forall_mem_map.2 fun entry known => (told entry known).plain
  have ink : Text.allBlank s.toJson.compact = false :=
    allBlank_of_mem (c := '\x7b') (by simp [toList_compact]) rfl
  exact ofDocument_of_present (.mapping ink (Yaml.read?_flowText plain (toList_compact s))
    (mappingTells_nodes told s.nodup_present .quoted)) (.refl _)

/-- The lines for a sheet are read. -/
theorem ofDocument_lines {text : String} (lines : s.InLines text) :
    ofDocument .yaml text = .ok s := by
  obtain ⟨ls, es, order, known, fillers, written, ends⟩ := lines
  have told : ∀ entry ∈ es, Says (line entry) entry := fun entry he =>
    says_line finite back (order.mem_iff.1 he)
  have distinct : (es.map Prod.fst).Nodup := (order.map Prod.fst).nodup_iff.2 s.nodup_present
  have plain : ∀ l ∈ ls, l.Plain := by
    intro l hl
    cases l with
    | filler blanks comment => exact fillers blanks comment hl
    | entry w =>
      have hw : w ∈ es.map line := known ▸ Yaml.mem_entries.2 hl
      obtain ⟨entry, he, rfl⟩ := List.mem_map.1 hw
      exact .entry (told entry he).plain
  have root := Yaml.read?_blockText plain written ends
  rw [known] at root
  refine ofDocument_of_present ?_ order
  cases es with
  | nil =>
    -- without entries, the text is blank or there are comments in it
    cases blank : Text.allBlank text with
    | true => exact .blank blank
    | false => exact .null blank root rfl
  | cons entry es =>
    have colon : ':' ∈ Yaml.blockText ls :=
      Yaml.mem_blockText (Yaml.mem_entries.1 (known ▸ List.mem_cons_self))
        (by simp [Line.text] : ':' ∈ (Line.entry (line entry)).text)
    have ink : Text.allBlank text = false :=
      allBlank_of_mem (Yaml.mem_of_mem_unifyBreaks (written ▸ colon) (by decide)) rfl
    exact .mapping ink root (mappingTells_nodes told distinct .plain)

end

theorem finitePart_eq_self (finite : ∀ fact v, s.get fact = some v → v.isFinite = true) :
    s.finitePart = s := by
  apply ext_get
  intro fact
  rw [finitePart, get_tabulate]
  cases known : s.get fact with
  | none => rfl
  | some v => rw [Option.filter, finite fact v known, if_pos rfl]

/-- **A sheet of finite numbers is read as YAML from the object that is written for it and from
lines, one for each value**, if the numbers that are written are read as what they were.  The lines
stand in any order, with blank lines and comments between them.  The empty sheet is read from every
blank text and from a pair of braces.  Where the numbers are read in JSON documents as well, both
formats give the same sheet. -/
theorem ofDocument_yaml (s : FactSheet)
    (finite : ∀ fact v, s.get fact = some v → v.isFinite = true) (back : s.LiteralsReadBack) :
    ofDocument .yaml s.toJson.compact = .ok s ∧
      (∀ text, s.InLines text → ofDocument .yaml text = .ok s) ∧
      (s = empty → ∀ text, Text.allBlank text = true ∨ text = "\x7b\x7d" →
        ofDocument .yaml text = .ok s) ∧
      (s.ReadsBack → ofDocument .json s.toJson.compact = .ok s) := by
  refine ⟨ofDocument_braces finite back, fun text => ofDocument_lines finite back, ?_,
    fun json => ?_⟩
  · rintro rfl text (blank | rfl)
    · exact ofDocument_of_tells (.blank blank) (by simp)
    · exact ofDocument_braces finite back
  · rw [ofDocument_compact json, finitePart_eq_self finite]

/-! ### Numbers that are read back -/

instance (s : FactSheet) : Decidable s.LiteralsReadBack :=
  decidable_of_iff (∀ fact ∈ Fact.all, ∀ v ∈ s.get fact, Number.read (Number.text v) = .ok v ∧
      ∀ t ∈ Number.json? v, Number.read t = .ok v)
    ⟨fun h fact v known => h fact (Fact.mem_all fact) v known,
      fun h fact _ v known => h fact v known⟩

/-- A sheet of which the lines are written in another order, with comments and line breaks of two
kinds. -/
theorem ofDocument_yaml_lines :
    let s := ofList
      [(.position, 500), (.contrast, 4.5), (.scrollDepth, 1e-7), (.similarColors, -0.0)]
    s.toJson.compact = "\x7b\"cta_position_y\":500.0,\"contrast_ratio\":4.5,"
        ++ "\"scroll_depth\":1e-7,\"similar_color_elements\":-0.0\x7d" ∧
      s.LiteralsReadBack ∧ ofDocument .yaml s.toJson.compact = .ok s ∧
      ofDocument .json s.toJson.compact = .ok s ∧
      ofDocument .yaml ("# measured\r\nscroll_depth: 0.0000001\ncta_position_y: 500\n\n"
        ++ "  # by hand\nsimilar_color_elements: -0\r\ncontrast_ratio: 4.5\n") = .ok s := by
  intro s
  have finite : ∀ fact ∈ Fact.all, ∀ v ∈ s.get fact, v.isFinite = true := by decide +kernel
  have back : s.LiteralsReadBack := by decide +kernel
  have json : s.ReadsBack := by decide +kernel
  have given := ofDocument_yaml s (fun fact v => finite fact (Fact.mem_all fact) v) back
  refine ⟨by decide +kernel, back, given.1, given.2.2.2 json, given.2.1 _ ⟨?_, ?_, ?_⟩⟩
  · exact [.filler [] (some " measured".toList), .entry (line (.scrollDepth, 1e-7)),
      .entry (line (.position, 500)), .filler [] none, .filler [' ', ' '] (some " by hand".toList),
      .entry (line (.similarColors, -0.0)), .entry (line (.contrast, 4.5)), .filler [] none]
  · exact [(.scrollDepth, 1e-7), (.position, 500), (.similarColors, -0.0), (.contrast, 4.5)]
  · refine ⟨by decide +kernel, rfl, fun blanks comment filler => ?_, by decide +kernel,
      by decide +kernel⟩
    simp only [List.mem_cons, reduceCtorEq, Line.filler.injEq, List.not_mem_nil, false_or,
      or_false] at filler
    rcases filler with ⟨rfl, rfl⟩ | ⟨rfl, rfl⟩ | ⟨rfl, rfl⟩ | ⟨rfl, rfl⟩
    all_goals exact .filler (by simp [Yaml.isBlank]) (by simp)

end FactSheet

end CallToAction
