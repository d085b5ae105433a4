import CallToAction.Proofs.Document.Json
import CallToAction.Proofs.FactSheet.Reading
import CallToAction.Proofs.Number.Written

/-!
# Sheets as JSON documents

The object that is written for a sheet is read again as the sheet without its values that are not
finite.  So is every object with the same members in another order and another layout, and with
nulls for other facts.  An object with an unknown name or with a name that is given twice is
refused, whatever its values are.

* `FactSheet.ReadsBack`: the numbers of a sheet are read as what they were;
* `ofDocument_of_members`, `exists_error_of_names`: which objects are read;
* `objectText_compact`: the text that is written is an object of the facts with a value;
* `ofDocument_json`: writing and reading undo each other.
-/

namespace CallToAction

open Json (Spells Member MemberText Members ObjectText Numeral)

namespace FactSheet

open Document

/-- The sheet without its values that are not finite. -/
def finitePart (s : FactSheet) : FactSheet :=
  tabulate fun fact => (s.get fact).filter Float.isFinite

/-- The numbers that are written for the values of a sheet are read as these values. -/
def ReadsBack (s : FactSheet) : Prop :=
  ∀ fact v t, s.get fact = some v → Number.json? v = some t →
    ∃ n, Numeral.read t.toList = .ok (n, []) ∧ n.toFloat = v

/-- The member that is written for a value. -/
def written (entry : Fact × Float) : Member where
  name := entry.1.name.toList.flatMap Json.escapeChar
  value := ((Number.json? entry.2).getD "null").toList

/-- What the member that is written for a value says. -/
def said (entry : Fact × Float) : Entry := (entry.1, (some entry.2).filter Float.isFinite)

variable {s : FactSheet}

/-! ### Reading objects -/

/-- A sheet is read from any object of its finite numbers and of nulls. -/
theorem ofDocument_of_members {ms : List Member} {text : String} {es : List Entry}
    (object : ObjectText ms text.toList) (given : List.Forall₂ Gives ms es)
    (distinct : (es.map Prod.fst).Nodup)
    (numbers : ∀ fact v, (fact, some v) ∈ es ↔ s.get fact = some v) :
    ofDocument .json text = .ok s :=
  ofDocument_of_tells (.json (entries_of_members object given distinct)) numbers

/-- An object is refused if a name in it is unknown or given twice. -/
theorem exists_error_of_names {ms : List Member} {text : String}
    (object : ObjectText ms text.toList)
    (bad : (∃ m ∈ ms, ∀ fact : Fact, ¬ Spells m.name fact.name.toList) ∨
      ∃ m m' name, [m, m'].Sublist ms ∧ Spells m.name name ∧ Spells m'.name name) :
    ∃ e, ofDocument .json text = .error e := by
  cases result : ofDocument .json text with
  | error e => exact ⟨e, rfl⟩
  | ok read =>
    obtain ⟨es, ⟨given⟩, -⟩ := (ofDocument_eq_ok_iff _ _ _).1 result
    obtain ⟨facts, names, distinct⟩ := names_of_entries object given
    rcases bad with ⟨m, hm, unknown⟩ | ⟨m, m', name, both, first, second⟩
    · obtain ⟨fact, -, named⟩ := exists_name names m hm
      exact absurd named (unknown fact)
    · have apart := pairwise_names names distinct
      exact absurd second (List.pairwise_iff_forall_sublist.1 apart both name first)

/-! ### Writing objects -/

theorem said_fst (entries : List (Fact × Float)) :
    (entries.map said).map Prod.fst = entries.map Prod.fst := by
  rw [List.map_map]
  rfl

theorem nodup_present (s : FactSheet) : (s.present.map Prod.fst).Nodup := by
  have sublist : (s.present.map Prod.fst).Sublist Fact.all := by
    unfold present
    rw [List.map_filterMap]
    have each : (fun fact => Option.map Prod.fst ((s.get fact).map (fact, ·)))
        = fun fact => Option.guard (fun fact => (s.get fact).isSome) fact := by
      funext fact
      cases h : s.get fact <;> simp [Option.guard, h]
    rw [each, List.filterMap_eq_filter]
    exact List.filter_sublist
  exact sublist.nodup (by decide)

theorem mem_said_iff (fact : Fact) (v : Float) :
    (fact, some v) ∈ s.present.map said ↔ s.finitePart.get fact = some v := by
  rw [finitePart, get_tabulate, Option.filter_eq_some_iff, List.mem_map]
  constructor
  · rintro ⟨⟨other, w⟩, known, eq⟩
    obtain ⟨rfl, kept⟩ := Prod.mk.inj eq
    obtain ⟨same, finite⟩ := Option.filter_eq_some_iff.1 kept
    cases same
    exact ⟨(s.mem_present_iff _ _).1 known, finite⟩
  · rintro ⟨known, finite⟩
    exact ⟨(fact, v), (s.mem_present_iff _ _).2 known, by simp [said, Option.filter, finite]⟩

/-- Members are written one after another, with a comma between two of them. -/
theorem members_writeMembers {entry : Fact × Float} {entries : List (Fact × Float)}
    (values : ∀ e ∈ entry :: entries, Json.Value (written e).value) :
    Members ((entry :: entries).map written)
      (Text.joinWith "," (Json.writeMembers .compact 1
        ((entry :: entries).map fun e => (e.1.name, .float e.2)))).toList := by
  have member (e : Fact × Float) (value : Json.Value (written e).value) :
      MemberText (written e)
        (Json.quote e.1.name ++ Json.Style.compact.colon
          ++ Json.write .compact 1 (.float e.2)).toList := by
    have none : Json.Gap [] := fun c hc => nomatch hc
    have := MemberText.mk (m := written e) none (Json.spells_escaped _).body none none value none
    simpa [Json.quote, Json.Style.colon, Json.write, written] using this
  induction entries generalizing entry with
  | nil => exact .last (member entry (values entry List.mem_cons_self))
  | cons next entries ih =>
    have first := member entry (values entry List.mem_cons_self)
    have others := ih fun e he => values e (List.mem_cons_of_mem _ he)
    have comma (a b : String) : (a ++ "," ++ b).toList = a.toList ++ ',' :: b.toList := by simp
    have := Members.next first others
    rw [← comma] at this
    simpa only [List.map_cons, Json.writeMembers, Text.joinWith] using this

section

variable (back : s.ReadsBack)
include back

theorem gives_written {entry : Fact × Float} (known : entry ∈ s.present) :
    Gives (written entry) (said entry) := by
  obtain ⟨fact, v⟩ := entry
  refine ⟨Json.spells_escaped _, ?_⟩
  cases printed : Number.json? v with
  | none =>
    have infinite := (Number.json?_eq_none_iff v).1 printed
    exact .inl ⟨by simp [written, printed], by simp [said, Option.filter, infinite]⟩
  | some t =>
    have finite : v.isFinite = true := by
      rw [← Bool.not_eq_false, ← Number.json?_eq_none_iff, printed]
      simp
    obtain ⟨n, read, value⟩ := back fact v t ((s.mem_present_iff _ _).1 known) printed
    exact .inr ⟨n, by simpa [written, printed] using read,
      by simp [said, Option.filter, finite, value]⟩

theorem value_written {entry : Fact × Float} (known : entry ∈ s.present) :
    Json.Value (written entry).value := by
  obtain ⟨-, ⟨null, -⟩ | ⟨n, number, -⟩⟩ := gives_written back known
  · rw [null]
    exact .null
  · obtain ⟨spelled, writes, -⟩ := Numeral.exists_writes_of_read number
    exact .number writes

/-- The text that is written for a sheet is an object of its facts with a value. -/
theorem objectText_compact :
    ObjectText (s.present.map written) s.toJson.compact.toList := by
  have values : ∀ entry ∈ s.present, Json.Value (written entry).value := fun entry known =>
    value_written back known
  have none : Json.Gap [] := fun c hc => nomatch hc
  unfold toJson Json.compact
  generalize s.present = entries at values
  cases entries with
  | nil =>
    have := ObjectText.empty none none none
    simpa [Json.write, Json.writeMembers, Json.Style.enclose] using this
  | cons entry entries =>
    have inner := members_writeMembers values
    have := ObjectText.members none inner none
    simpa [Json.write, Json.writeMembers, Json.Style.enclose, Json.Style.lineBreak] using this

/-- What is read from the text that is written for a sheet. -/
theorem ofDocument_compact : ofDocument .json s.toJson.compact = .ok s.finitePart := by
  have given : List.Forall₂ Gives (s.present.map written) (s.present.map said) := by
    rw [List.forall₂_map_left_iff, List.forall₂_map_right_iff, List.forall₂_same]
    exact fun entry known => gives_written back known
  have distinct : ((s.present.map said).map Prod.fst).Nodup := by
    rw [said_fst]
    exact s.nodup_present
  exact ofDocument_of_members (objectText_compact back) given distinct mem_said_iff

end

/-- **Writing a sheet as a JSON document and reading it again gives the sheet without its values
that are not finite**, if the numbers that are written are read as what they were.  The same sheet
is read from any object of its finite numbers, in any order and layout, with nulls for any other
facts.  An object is refused if a name in it is unknown or given twice, whatever the values are. -/
theorem ofDocument_json (s : FactSheet) (back : s.ReadsBack) :
    ofDocument .json s.toJson.compact = .ok s.finitePart ∧
      (∀ ms text es, ObjectText ms text.toList → List.Forall₂ Gives ms es →
        (es.map Prod.fst).Nodup →
        (∀ fact v, (fact, some v) ∈ es ↔ s.finitePart.get fact = some v) →
        ofDocument .json text = .ok s.finitePart) ∧
      ∀ ms text, ObjectText ms text.toList →
        ((∃ m ∈ ms, ∀ fact : Fact, ¬ Spells m.name fact.name.toList) ∨
          ∃ m m' name, [m, m'].Sublist ms ∧ Spells m.name name ∧ Spells m'.name name) →
        ∃ e, ofDocument .json text = .error e := by
  exact ⟨ofDocument_compact back, fun ms text es => ofDocument_of_members,
    fun ms text => exists_error_of_names⟩

/-! ### Numbers that are read back -/

instance (s : FactSheet) : Decidable s.ReadsBack :=
  decidable_of_iff (∀ fact ∈ Fact.all, ∀ v ∈ s.get fact, ∀ t ∈ Number.json? v,
      (Numeral.read t.toList).toOption.any fun r => r.1.toFloat = v ∧ r.2 = []) <| by
    refine ⟨fun h fact v t known printed => ?_, fun h fact _ v known t printed => ?_⟩
    · have := h fact (Fact.mem_all fact) v known t printed
      cases read : Numeral.read t.toList with
      | error f => simp [read, Except.toOption] at this
      | ok r =>
        obtain ⟨value, whole⟩ := by simpa [read, Except.toOption] using this
        exact ⟨r.1, by rw [← whole], value⟩
    · obtain ⟨n, read, value⟩ := h fact v t known printed
      simp [read, Except.toOption, value]

/-- A sheet with a value that is not finite. -/
theorem ofDocument_json_infinite :
    let s := ofList [(.position, 500), (.contrast, 4.5), (.width, 1 / 0), (.scrollDepth, 1e-7)]
    s.toJson.compact = "\x7b\"cta_position_y\":500.0,\"cta_width\":null,"
        ++ "\"contrast_ratio\":4.5,\"scroll_depth\":1e-7\x7d" ∧
      s.ReadsBack ∧ ofDocument .json s.toJson.compact
        = .ok (ofList [(.position, 500), (.contrast, 4.5), (.scrollDepth, 1e-7)]) := by
  intro s
  have back : s.ReadsBack := by decide +kernel
  have finite : s.finitePart
      = ofList [(.position, 500), (.contrast, 4.5), (.scrollDepth, 1e-7)] := by decide +kernel
  exact ⟨by decide +kernel, back, finite ▸ (ofDocument_json s back).1⟩

end FactSheet

end CallToAction
