import CallToAction.Proofs.Document.Entries
import CallToAction.Proofs.Json.Object

/-!
# Reading objects of facts

The members of an object are read one after another.  One whose value is a null or a number is read
as an entry; if all are read, their names are those of distinct facts.

* `Reading.foldlM_memberText`, `Reading.exists_of_foldlM_memberText`: reading one member;
* `entries_of_members`: what is read of an object whose values are nulls and numbers;
* `names_of_entries`: the names in an object that is read.
-/

namespace CallToAction

open Json (Spells Member MemberText Members ObjectText Numeral)
open Json.Lexeme (scan)

/-! ### Reading members -/

namespace Document

/-- A member says this about a fact. -/
def Gives (m : Member) (entry : Entry) : Prop :=
  Spells m.name entry.1.name.toList ∧
    (m.value = "null".toList ∧ entry.2 = none ∨
      ∃ n, Numeral.read m.value = .ok (n, []) ∧ entry.2 = some n.toFloat)

namespace Reading

variable {m : Member} {ms : List Member} {cs rest : List Char} {first : Bool}
  {before : List Entry} {r : Reading}

/-- A member is read as its entry. -/
theorem foldlM_memberText {entry : Entry} (text : MemberText m cs) (given : Gives m entry)
    (fresh : entry.1 ∉ before.map Prod.fst) (apart : Numeral.Delimits rest) :
    (scan (cs ++ rest)).foldlM step (name first before)
      = (scan rest).foldlM step (between .object (before ++ [entry])) := by
  obtain ⟨fact, v⟩ := entry
  obtain ⟨named, value⟩ := given
  have unseen : ∀ entry ∈ before, entry.1 ≠ fact := by
    rintro entry he rfl
    exact fresh (List.mem_map.2 ⟨entry, he, rfl⟩)
  rcases text.scan rest with ⟨f, failed⟩ | ⟨s, after, spelled, -, behind, found⟩
  · exact absurd failed (by
      obtain @⟨_, before, mid, opening, after, ahead, -, -, -, -, -⟩ := text
      simp only [List.append_assoc, List.cons_append]
      rw [Json.scan_gap ahead, Json.scan_text named]
      simp)
  · cases spelled.unique named
    have member (lexeme : Json.Lexeme)
        (follows : scan (m.value ++ (after ++ rest)) = lexeme :: scan rest)
        (fits : lexeme = .null ∧ v = none ∨ ∃ n, lexeme = .number n ∧ v = some n.toFloat) :
        (scan (cs ++ rest)).foldlM step (name first before)
          = (scan rest).foldlM step (between .object (before ++ [(fact, v)])) := by
      have split : scan (cs ++ rest) = [.text fact.name, .colon, lexeme] ++ scan rest := by
        rw [found, follows, String.ofList_toList]
        rfl
      rw [split, List.foldlM_append, foldlM_member v lexeme unseen fits]
      rfl
    rcases value with ⟨null, absent⟩ | ⟨n, number, present⟩
    · refine member .null ?_ (.inl ⟨rfl, absent⟩)
      rw [null]
      exact Json.scan_null.trans (congrArg _ (Json.scan_gap behind rest))
    · refine member (.number n) ?_ (.inr ⟨n, rfl, present⟩)
      rw [Json.scan_number number (Json.delimits_gap behind apart), Json.scan_gap behind]

/-- What is neither a null nor a number is no value of a fact. -/
theorem foldlM_value_ne_ok {fact : Fact} {lexeme : Json.Lexeme} (lexemes : List Json.Lexeme)
    (unfit : lexeme ≠ .null ∧ ∀ n, lexeme ≠ .number n) :
    (lexeme :: lexemes).foldlM step (value .object fact before) ≠ .ok r := by
  have refused : step (value .object fact before) lexeme = misfit .notNumber lexeme := by
    cases lexeme <;> first
      | rfl
      | exact absurd rfl unfit.1
      | exact absurd rfl (unfit.2 _)
  rw [List.foldlM_cons, refused]
  cases failed : misfit .notNumber lexeme with
  | ok r => exact absurd failed (misfit_ne_ok _ _ _)
  | error e => nofun

/-- A member that is read has the name of a fact without an entry. -/
theorem exists_of_foldlM_memberText (text : MemberText m cs) (apart : Numeral.Delimits rest)
    (h : (scan (cs ++ rest)).foldlM step (name first before) = .ok r) :
    ∃ entry : Entry, Spells m.name entry.1.name.toList ∧ entry.1 ∉ before.map Prod.fst ∧
      (scan rest).foldlM step (between .object (before ++ [entry])) = .ok r := by
  rcases text.scan rest with ⟨f, failed⟩ | ⟨s, after, spelled, value, behind, found⟩
  · rw [failed] at h
    cases first <;> cases h
  have taken : step (name first before) (.text (.ofList s))
      = takeName before (.text (.ofList s)) := by
    cases first <;> rfl
  rw [found, List.foldlM_cons, taken] at h
  cases named : takeName before (.text (.ofList s)) with
  | error e =>
    rw [named] at h
    cases h
  | ok next =>
    obtain ⟨fact, same, fresh, rfl⟩ := exists_of_takeName named
    obtain rfl : s = fact.name.toList := by
      rw [← Json.Lexeme.text.inj same, String.toList_ofList]
    rw [named] at h
    change (scan (m.value ++ (after ++ rest))).foldlM step (.value .object fact before) = .ok r at h
    rcases value.scan (Json.delimits_gap behind apart) with
      null | ⟨n, number⟩ | ⟨l, tail, other, unfit⟩
    · rw [null, Json.scan_gap behind] at h
      exact ⟨(fact, none), spelled, fresh, h⟩
    · rw [number, Json.scan_gap behind] at h
      exact ⟨(fact, some n.toFloat), spelled, fresh, h⟩
    · rw [other] at h
      exact absurd h (foldlM_value_ne_ok tail unfit)

theorem foldlM_comma :
    (scan (',' :: rest)).foldlM step (between .object before)
      = (scan rest).foldlM step (name false before) := by
  rw [Json.scan_comma, List.foldlM_cons]
  rfl

theorem foldlM_braceClose :
    (scan ('\x7d' :: rest)).foldlM step (between .object before)
      = (scan rest).foldlM step (done before) := by
  rw [Json.scan_braceClose, List.foldlM_cons]
  rfl

/-- The members of an object are read as their entries, in order. -/
theorem foldlM_members {entries : List Entry} (text : Members ms cs)
    (given : List.Forall₂ Gives ms entries)
    (distinct : ((before ++ entries).map Prod.fst).Nodup) :
    (scan (cs ++ '\x7d' :: rest)).foldlM step (name first before)
      = (scan rest).foldlM step (done (before ++ entries)) := by
  induction given generalizing cs first before with
  | nil => cases text
  | @cons m entry ms entries head tail ih =>
    have fresh : entry.1 ∉ before.map Prod.fst := by
      intro seen
      rw [List.map_append, List.nodup_append] at distinct
      exact distinct.2.2 _ seen entry.1 (by simp) rfl
    cases text with
    | last only =>
      cases tail
      rw [foldlM_memberText only head fresh Json.delimits_braceClose, foldlM_braceClose]
    | next this others =>
      rw [List.append_assoc, List.cons_append,
        foldlM_memberText this head fresh Json.delimits_comma, foldlM_comma,
        ih others (by simpa using distinct), List.append_assoc, List.singleton_append]

/-- The members of an object that is read have the names of distinct facts. -/
theorem names_of_foldlM (text : Members ms cs)
    (h : (scan (cs ++ '\x7d' :: rest)).foldlM step (name first before) = .ok r) :
    ∃ facts : List Fact, List.Forall₂ (fun m fact => Spells m.name fact.name.toList) ms facts ∧
      facts.Nodup ∧ ∀ fact ∈ facts, fact ∉ before.map Prod.fst := by
  induction ms generalizing cs first before with
  | nil => cases text
  | cons m ms ih =>
    cases text with
    | last only =>
      obtain ⟨entry, named, fresh, -⟩ :=
        exists_of_foldlM_memberText only Json.delimits_braceClose h
      exact ⟨[entry.1], .cons named .nil, List.nodup_singleton _, by simpa using fresh⟩
    | next this others =>
      rw [List.append_assoc, List.cons_append] at h
      obtain ⟨entry, named, fresh, h⟩ := exists_of_foldlM_memberText this Json.delimits_comma h
      rw [foldlM_comma] at h
      obtain ⟨facts, names, distinct, apart⟩ := ih others h
      refine ⟨entry.1 :: facts, .cons named names, List.nodup_cons.2 ⟨fun again => ?_, distinct⟩,
        ?_⟩
      · exact apart _ again (by simp)
      · rintro fact (_ | ⟨_, later⟩)
        · exact fresh
        · exact fun seen => apart fact later (by simp [seen])

end Reading

theorem exists_name {ms : List Member} {facts : List Fact}
    (names : List.Forall₂ (fun m fact => Spells m.name fact.name.toList) ms facts) :
    ∀ m ∈ ms, ∃ fact ∈ facts, Spells m.name fact.name.toList := by
  induction names with
  | nil => simp
  | cons head _ ih =>
    rintro m (_ | ⟨_, later⟩)
    · exact ⟨_, List.mem_cons_self, head⟩
    · obtain ⟨fact, known, named⟩ := ih m later
      exact ⟨fact, List.mem_cons_of_mem _ known, named⟩

/-- Members with the names of distinct facts have distinct names. -/
theorem pairwise_names {ms : List Member} {facts : List Fact}
    (names : List.Forall₂ (fun m fact => Spells m.name fact.name.toList) ms facts)
    (distinct : facts.Nodup) :
    ms.Pairwise fun m m' => ∀ name, Spells m.name name → ¬ Spells m'.name name := by
  induction names with
  | nil => exact .nil
  | cons head tail ih =>
    obtain ⟨fresh, distinct⟩ := List.nodup_cons.1 distinct
    refine .cons (fun m' later name first second => ?_) (ih distinct)
    obtain ⟨fact, known, named⟩ := exists_name tail m' later
    have same := (head.unique first).trans (second.unique named)
    cases Fact.name_injective (String.toList_inj.1 same)
    exact fresh known

theorem entries_empty {inside after : List Char} (blank : Json.Gap inside)
    (behind : Json.Gap after) :
    entries (scan ('\x7b' :: (inside ++ '\x7d' :: after))) = .ok [] := by
  rw [Json.scan_braceOpen, Json.scan_gap blank, Json.scan_braceClose, Json.scan_blank behind]
  rfl

/-- What is read of an object whose values are nulls and numbers. -/
theorem entries_of_members {ms : List Member} {cs : List Char} {es : List Entry}
    (text : ObjectText ms cs) (given : List.Forall₂ Gives ms es)
    (distinct : (es.map Prod.fst).Nodup) : entries (scan cs) = .ok es := by
  cases text with
  | empty ahead blank behind =>
    cases given
    rw [Json.scan_gap ahead, entries_empty blank behind]
  | members ahead inner behind =>
    rw [Json.scan_gap ahead, Json.scan_braceOpen, entries, List.foldlM_cons]
    change (scan _).foldlM Reading.step (.name true []) >>= Reading.finish = _
    have distinct : (([] ++ es).map Prod.fst).Nodup := distinct
    rw [Reading.foldlM_members inner given distinct, Json.scan_blank behind]
    rfl

/-- The members of an object that is read have the names of distinct facts. -/
theorem names_of_entries {ms : List Member} {cs : List Char} {es : List Entry}
    (text : ObjectText ms cs) (h : entries (scan cs) = .ok es) :
    ∃ facts : List Fact, List.Forall₂ (fun m fact => Spells m.name fact.name.toList) ms facts ∧
      facts.Nodup := by
  cases text with
  | empty => exact ⟨[], .nil, List.nodup_nil⟩
  | members ahead inner behind =>
    rw [Json.scan_gap ahead, Json.scan_braceOpen, entries, List.foldlM_cons] at h
    change (scan _).foldlM Reading.step (.name true []) >>= Reading.finish = _ at h
    cases whole : (scan _).foldlM Reading.step (.name true []) with
    | error e =>
      rw [whole] at h
      cases h
    | ok r =>
      obtain ⟨facts, names, distinct, -⟩ := Reading.names_of_foldlM inner whole
      exact ⟨facts, names, distinct⟩

end Document

end CallToAction
