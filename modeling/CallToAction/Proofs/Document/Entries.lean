import CallToAction.Document.Basic
import Mathlib.Data.List.Nodup
import Mathlib.Data.List.Induction
import Mathlib.Data.Option.Basic
import Mathlib.Tactic.SplitIfs

/-!
# What documents say

A document says something about some facts, each of them once: a number, or that there is none.  A
sheet that is read from a document has exactly the numbers that the document gives; a null and a
fact that is left out are the same.

* `FactSheet.get_ofEntries`: the values of a sheet with given entries;
* `Reading.Distinct.step`, `Reading.Distinct.foldlM`: no JSON document gives a fact twice;
* `Document.Tells`: what a text says about facts;
* `FactSheet.ofDocument_eq_ok_iff`: reading finds what the text says;
* `ofDocument_of_tells`: a sheet is read from a text that says its values.
-/

namespace CallToAction

/-! ### Sheets with given entries -/

/-- The number that entries give for a fact. -/
def Document.number? (entries : List Document.Entry) (key : Fact) : Option Float :=
  (entries.lookup key).join

/-- Entries about distinct facts give the numbers that stand among them. -/
theorem Document.number?_eq_some_iff {es : List Entry} (distinct : (es.map Prod.fst).Nodup)
    (key : Fact) (v : Float) : number? es key = some v ↔ (key, some v) ∈ es := by
  induction es with
  | nil => simp [number?]
  | cons entry es ih =>
    obtain ⟨fact, o⟩ := entry
    obtain ⟨fresh, distinct⟩ := List.nodup_cons.1 distinct
    by_cases same : key = fact
    · subst same
      have later : (key, some v) ∉ es := fun again => fresh (List.mem_map.2 ⟨_, again, rfl⟩)
      simp [number?, later, eq_comm]
    · have : number? ((fact, o) :: es) key = number? es key := by
        rw [number?, List.lookup_cons, beq_false_of_ne same]
        rfl
      rw [this, ih distinct]
      simp [same]

namespace FactSheet

theorem get_ofEntries_concat (entries : List Document.Entry) (key : Fact) (v : Option Float)
    (other : Fact) :
    (ofEntries (entries ++ [(key, v)])).get other =
      if other = key then v.or ((ofEntries entries).get other)
      else (ofEntries entries).get other := by
  cases v with
  | none => simp [ofEntries]
  | some v =>
    have written : ofEntries (entries ++ [(key, some v)]) = (ofEntries entries).set key v := by
      simp [ofEntries, ofList]
    rw [written]
    split_ifs with h
    · rw [h, get_set_self, Option.some_or]
    · exact get_set_of_ne _ _ h

/-- A sheet has the numbers that its entries give, if they are about distinct facts. -/
theorem get_ofEntries {entries : List Document.Entry} (distinct : (entries.map Prod.fst).Nodup)
    (key : Fact) : (ofEntries entries).get key = Document.number? entries key := by
  induction entries using List.reverseRecOn with
  | nil => simp [ofEntries, ofList, Document.number?]
  | append_singleton entries last ih =>
    obtain ⟨other, v⟩ := last
    rw [List.map_append, List.nodup_append] at distinct
    obtain ⟨earlier, -, apart⟩ := distinct
    rw [get_ofEntries_concat, ih earlier, Document.number?, Document.number?, List.lookup_append]
    split_ifs with h
    · subst h
      -- nothing was said about the fact before
      have unsaid : entries.lookup key = none := by
        rw [List.lookup_eq_none_iff]
        intro entry he
        have := apart entry.1 (List.mem_map_of_mem he) key (by simp)
        simpa using this.symm
      simp [unsaid]
    · have other : [(other, v)].lookup key = none := by simp [h]
      rw [other, Option.or_none]

end FactSheet

/-! ### JSON documents -/

namespace Document

/-- The facts that further items belong to. -/
def Container.later : Container → List Fact
  | object => []
  | array facts => facts

namespace Reading

/-- The entries read so far and those to come in the same array are about distinct facts. -/
def Distinct : Reading → Prop
  | start | firstItem => True
  | name _ entries | done entries => (entries.map Prod.fst).Nodup
  | colon fact entries => (entries.map Prod.fst ++ [fact]).Nodup
  | value container fact entries => (entries.map Prod.fst ++ fact :: container.later).Nodup
  | between container entries => (entries.map Prod.fst ++ container.later).Nodup

theorem misfit_ne_ok (cause : Misfit → JsonError) (lexeme : Json.Lexeme) (r : Reading) :
    misfit cause lexeme ≠ .ok r := by
  cases lexeme <;> simp [misfit, unexpected]

/-- A name that is read is that of a fact without an entry. -/
theorem exists_of_takeName {entries : List Entry} {lexeme : Json.Lexeme} {r : Reading}
    (h : takeName entries lexeme = .ok r) :
    ∃ fact, lexeme = .text fact.name ∧ fact ∉ entries.map Prod.fst ∧ r = .colon fact entries := by
  unfold takeName at h
  split at h
  · split at h
    · cases h
    · next fact known =>
      split_ifs at h with seen
      cases h
      have named := List.find?_some known
      rw [decide_eq_true_eq] at named
      exact ⟨fact, by rw [named], by simpa using seen, rfl⟩
  · cases h
  · cases h

theorem distinct_of_takeName {entries : List Entry} {lexeme : Json.Lexeme} {r : Reading}
    (distinct : (entries.map Prod.fst).Nodup) (h : takeName entries lexeme = .ok r) :
    r.Distinct := by
  obtain ⟨fact, -, fresh, rfl⟩ := exists_of_takeName h
  exact List.nodup_append.2 ⟨distinct, List.nodup_singleton _, by
    rintro a ha b hb rfl
    exact fresh (List.mem_singleton.1 hb ▸ ha)⟩

theorem distinct_of_takeValue {container : Container} {fact : Fact} {entries : List Entry}
    {lexeme : Json.Lexeme} {r : Reading}
    (distinct : (entries.map Prod.fst ++ fact :: container.later).Nodup)
    (h : takeValue container fact entries lexeme = .ok r) : r.Distinct := by
  unfold takeValue at h
  split at h
  · cases h
    simpa [Distinct] using distinct
  · cases h
    simpa [Distinct] using distinct
  · exact absurd h (misfit_ne_ok _ _ _)

theorem distinct_of_takeFirstItem {lexeme : Json.Lexeme} {r : Reading}
    (h : takeFirstItem lexeme = .ok r) : r.Distinct := by
  unfold takeFirstItem at h
  split at h
  · cases h
    exact List.nodup_nil
  · cases h
    exact List.nodup_nil
  · next fact facts _ all =>
    have distinct : (fact :: facts).Nodup := by
      rw [← all]
      decide
    have whole : (([] : List Entry).map Prod.fst ++ fact :: (Container.array facts).later).Nodup :=
      distinct
    exact distinct_of_takeValue whole h

theorem distinct_of_takeBetween {container : Container} {entries : List Entry}
    {lexeme : Json.Lexeme} {r : Reading}
    (distinct : (entries.map Prod.fst ++ container.later).Nodup)
    (h : takeBetween entries container lexeme = .ok r) : r.Distinct := by
  have given : (entries.map Prod.fst).Nodup := (List.nodup_append.1 distinct).1
  unfold takeBetween at h
  split at h
  · cases h
    exact given
  · cases h
    exact given
  · cases h
    exact distinct
  · cases h
    exact given
  · cases h

/-- A lexeme leads to distinct facts again. -/
theorem Distinct.step {r r' : Reading} {lexeme : Json.Lexeme} (distinct : r.Distinct)
    (h : r.step lexeme = .ok r') : r'.Distinct := by
  unfold Reading.step at h
  split at h
  · cases h
    exact List.nodup_nil
  · cases h
    trivial
  · exact absurd h (misfit_ne_ok _ _ _)
  · cases h
    exact distinct
  · exact distinct_of_takeName distinct h
  · cases h
    simpa [Distinct, Container.later] using distinct
  · cases h
  · exact distinct_of_takeValue distinct h
  · exact distinct_of_takeFirstItem h
  · exact distinct_of_takeBetween distinct h
  · cases h

/-- A run over lexemes leads to distinct facts. -/
theorem Distinct.foldlM {r r' : Reading} {lexemes : List Json.Lexeme} (distinct : r.Distinct)
    (h : lexemes.foldlM Reading.step r = .ok r') : r'.Distinct := by
  induction lexemes generalizing r with
  | nil =>
    cases h
    exact distinct
  | cons lexeme lexemes ih =>
    rw [List.foldlM_cons] at h
    cases first : r.step lexeme with
    | error e => simp [first, bind, Except.bind] at h
    | ok next =>
      rw [first] at h
      exact ih (distinct.step first) h

end Reading

/-- No JSON document gives a fact twice. -/
theorem nodup_entries {lexemes : List Json.Lexeme} {es : List Entry}
    (h : entries lexemes = .ok es) : (es.map Prod.fst).Nodup := by
  unfold entries at h
  cases whole : lexemes.foldlM Reading.step .start with
  | error e => simp [whole, bind, Except.bind] at h
  | ok r =>
    have distinct : r.Distinct := Reading.Distinct.foldlM (r := .start) trivial whole
    rw [whole] at h
    change r.finish = .ok es at h
    unfold Reading.finish at h
    split at h
    · cases h
      exact distinct
    · cases h

/-! ### What a text says -/

/-- A mapping says this about facts: each of its members is an entry, and no fact is given twice. -/
def MappingTells (pairs : List (Yaml.Node × Yaml.Node)) (es : List Entry) : Prop :=
  ∃ members, Yaml.Node.members? pairs = some members ∧
    members.mapM (fun member => FactSheet.entry? member.1 member.2) = some es ∧
    (es.map Prod.fst).Nodup

/-- A text in a format says this about facts. -/
inductive Tells : Format → String → List Entry → Prop
  | json {text : String} {es : List Entry}
      (given : entries (Json.Lexeme.scan text.toList) = .ok es) : Tells .json text es
  | blank {text : String} (empty : Text.allBlank text = true) : Tells .yaml text []
  | null {text : String} {node : Yaml.Node} (written : Text.allBlank text = false)
      (root : Yaml.read? text = some node) (nothing : node.isNull = true) : Tells .yaml text []
  | mapping {text : String} {pairs : List (Yaml.Node × Yaml.Node)} {es : List Entry}
      (written : Text.allBlank text = false) (root : Yaml.read? text = some (.mapping pairs))
      (given : MappingTells pairs es) : Tells .yaml text es

theorem MappingTells.nodup {pairs : List (Yaml.Node × Yaml.Node)} {es : List Entry}
    (h : MappingTells pairs es) : (es.map Prod.fst).Nodup := by
  obtain ⟨members, whole, read, distinct⟩ := h
  exact distinct

theorem Tells.nodup {format : Format} {text : String} {es : List Entry} (h : Tells format text es) :
    (es.map Prod.fst).Nodup := by
  cases h with
  | json given => exact nodup_entries given
  | blank | null => exact List.nodup_nil
  | mapping _ _ given => exact given.nodup

end Document

namespace FactSheet

open Document

theorem ofMapping?_eq_some_iff (members : List (String × Yaml.Node)) (s : FactSheet) :
    ofMapping? members = some s ↔
      ∃ es, members.mapM (fun member => entry? member.1 member.2) = some es ∧
        (es.map Prod.fst).Nodup ∧ ofEntries es = s := by
  simp [ofMapping?, Option.bind_eq_some_iff, Option.guard_eq_some']

theorem ofNode?_eq_some_iff (pairs : List (Yaml.Node × Yaml.Node)) (s : FactSheet) :
    ofNode? (.mapping pairs) = some s ↔ ∃ es, MappingTells pairs es ∧ ofEntries es = s := by
  simp only [ofNode?, Option.bind_eq_bind, Option.bind_eq_some_iff, ofMapping?_eq_some_iff,
    MappingTells]
  constructor
  · rintro ⟨members, whole, es, given, distinct, rfl⟩
    exact ⟨es, ⟨members, whole, given, distinct⟩, rfl⟩
  · rintro ⟨es, ⟨members, whole, given, distinct⟩, rfl⟩
    exact ⟨members, whole, es, given, distinct, rfl⟩

theorem ofYaml?_eq_some_iff (text : String) (s : FactSheet) :
    ofYaml? text = some s ↔ ∃ es, Tells .yaml text es ∧ ofEntries es = s := by
  unfold ofYaml?
  constructor
  · intro h
    split_ifs at h with written
    · cases h
      exact ⟨[], .blank written, rfl⟩
    · rw [Bool.not_eq_true] at written
      obtain ⟨node, root, h⟩ := Option.bind_eq_some_iff.1 h
      cases node with
      | mapping pairs =>
        obtain ⟨es, given, rfl⟩ := (ofNode?_eq_some_iff _ _).1 h
        exact ⟨es, .mapping written root given, rfl⟩
      | scalar tag style text =>
        simp only [ofNode?] at h
        split_ifs at h with nothing
        cases h
        exact ⟨[], .null written root nothing, rfl⟩
      | sequence items => cases h
  · rintro ⟨es, told, rfl⟩
    cases told with
    | blank empty => rw [if_pos empty]; rfl
    | @null _ node written root nothing =>
      rw [if_neg (by simp [written]), root]
      cases node with
      | scalar tag style s => exact if_pos nothing
      | mapping pairs => cases nothing
      | sequence items => cases nothing
    | mapping written root given =>
      rw [if_neg (by simp [written]), root]
      exact (ofNode?_eq_some_iff _ _).2 ⟨es, given, rfl⟩

/-- Reading a document finds what it says. -/
theorem ofDocument_eq_ok_iff (format : Format) (text : String) (s : FactSheet) :
    ofDocument format text = .ok s ↔ ∃ es, Tells format text es ∧ ofEntries es = s := by
  cases format with
  | json =>
    simp only [ofDocument, ofJson]
    constructor
    · intro h
      cases given : entries (Json.Lexeme.scan text.toList) with
      | error e => simp [given, Except.map] at h
      | ok es =>
        simp only [given, Except.map, Except.ok.injEq] at h
        exact ⟨es, .json given, h⟩
    · rintro ⟨es, ⟨given⟩, rfl⟩
      simp [given, Except.map]
  | yaml =>
    rw [← ofYaml?_eq_some_iff]
    simp only [ofDocument]
    cases ofYaml? text <;> simp

/-- A sheet is read from a document that says its values and no others. -/
theorem ofDocument_of_tells {format : Format} {text : String} {es : List Entry} {s : FactSheet}
    (told : Tells format text es)
    (numbers : ∀ fact v, (fact, some v) ∈ es ↔ s.get fact = some v) :
    ofDocument format text = .ok s := by
  refine (ofDocument_eq_ok_iff _ _ _).2 ⟨es, told, ?_⟩
  apply ext_get
  intro fact
  rw [get_ofEntries told.nodup]
  apply Option.ext
  intro v
  rw [number?_eq_some_iff told.nodup, numbers]

end FactSheet

end CallToAction
