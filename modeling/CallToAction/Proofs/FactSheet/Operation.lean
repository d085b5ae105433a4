import CallToAction.Proofs.Document.Entries
import CallToAction.Proofs.FactSheet.Assignment
import CallToAction.Proofs.FactSheet.Filling
import Mathlib.Data.List.TakeDrop
import Mathlib.Data.List.TakeWhile
import Mathlib.Logic.Function.Basic

/-!
# Operations on sheets

A sheet is filled by operations: values are written to it, other sheets are laid over it or below
it, and assignments and documents are read.  Each operation does to the values of the sheet what it
does to a finite map from facts to numbers, and one that fails leaves the sheet alone.

* `Assignment.ofText_eq_ok_iff`: what an assignment says;
* `Operation.Maps`: what an operation does to a map;
* `maps_iff`, `reaches_iff`: a sheet follows the map over one operation and over many;
* `get_after_of_not_names`: an operation changes only the facts that it names;
* `run_follows_map`: the whole for sheets that are filled from nothing.
-/

namespace CallToAction

/-! ### Assignments -/

/-- A fact is found by its name, with white space around it or not. -/
theorem Fact.ofText?_eq_some_iff {s : String} {key : Fact} :
    ofText? s = some key ↔ Text.trim s = key.name := by
  constructor
  · intro found
    have same := List.find?_some found
    exact (of_decide_eq_true same).symm
  · intro named
    rw [ofText?, named, named?_name]

namespace Assignment

/-- A text assigns a value to a fact: up to its first equals sign it is the name of the fact, and
behind it a number, with white space around the name and the number. -/
def Assigns (text : String) (key : Fact) (v : Float) : Prop :=
  ∃ before after : List Char, text.toList = before ++ '=' :: after ∧ '=' ∉ before ∧
    Text.trim (.ofList before) = key.name ∧ Number.read (Text.trim (.ofList after)) = .ok v

/-- A text is split at its first equals sign. -/
theorem split?_eq_some_iff (text key value : String) :
    split? text = some (key, value) ↔
      text.toList = key.toList ++ '=' :: value.toList ∧ '=' ∉ key.toList := by
  unfold split?
  rw [List.span_eq_takeWhile_dropWhile]
  constructor
  · intro h
    have whole :=
      List.takeWhile_append_dropWhile (p := fun c : Char => decide (c ≠ '=')) (l := text.toList)
    split at h
    · cases h
    · rename_i cs c rest pair
      obtain ⟨rfl, rest_eq⟩ := Prod.mk.inj pair
      rw [Option.some.injEq, Prod.mk.injEq] at h
      obtain ⟨rfl, rfl⟩ := h
      have sign : c = '=' := by
        have := List.head?_dropWhile_not (fun c : Char => decide (c ≠ '=')) text.toList
        rw [rest_eq] at this
        simpa using this
      rw [rest_eq, sign] at whole
      simp only [String.toList_ofList]
      exact ⟨whole.symm, fun h => by simpa using List.mem_takeWhile_imp h⟩
  · rintro ⟨whole, first⟩
    have all : ∀ c ∈ key.toList, decide (c ≠ '=') = true := by
      intro c hc
      simp only [decide_eq_true_eq]
      rintro rfl
      exact first hc
    rw [whole, List.takeWhile_append_of_pos all, List.dropWhile_append_of_pos all]
    simp

theorem split?_of_first {text : String} {before after : List Char}
    (whole : text.toList = before ++ '=' :: after) (first : '=' ∉ before) :
    split? text = some (.ofList before, .ofList after) := by
  rw [split?_eq_some_iff, String.toList_ofList, String.toList_ofList]
  exact ⟨whole, first⟩

theorem ofText_eq_ok_iff (text : String) (a : Assignment) :
    ofText text = .ok a ↔ Assigns text a.fact a.value := by
  unfold ofText Assigns
  constructor
  · intro h
    split at h
    · cases h
    · rename_i key value parts
      obtain ⟨whole, first⟩ := (split?_eq_some_iff _ _ _).1 parts
      split at h
      · cases h
      · rename_i fact found
        split at h
        · cases h
        · rename_i v number
          cases h
          have named := Fact.ofText?_eq_some_iff.1 found
          exact ⟨key.toList, value.toList, whole, first, by simpa using named,
            by simpa using number⟩
  · rintro ⟨before, after, whole, first, named, number⟩
    have found := Fact.ofText?_eq_some_iff.2 named
    simp only [split?_of_first whole first, found, number]

end Assignment

/-! ### Operations -/

namespace FactSheet

/-- An operation on a sheet. -/
inductive Operation
  /-- Write a value for a fact. -/
  | set (key : Fact) (value : Float)
  /-- Lay another sheet over it. -/
  | overlay (top : FactSheet)
  /-- Lay it over another sheet. -/
  | underlay (base : FactSheet)
  /-- Carry out an assignment. -/
  | assign (text : String)
  /-- Read a document and lay it over. -/
  | read (format : Document.Format) (text : String)

/-- Why an operation fails. -/
inductive Operation.Error
  | assignment (cause : Assignment.Error)
  | document (cause : Document.Error)

/-- What an operation does to a sheet.  The sheet comes back with what came of the operation. -/
def perform (s : FactSheet) : Operation → FactSheet × Except Operation.Error Unit
  | .set key value => (s.set key value, .ok ())
  | .overlay top => (s.overlay top, .ok ())
  | .underlay base => (base.overlay s, .ok ())
  | .assign text =>
    match s.carryOut text with
    | (s, .ok ()) => (s, .ok ())
    | (s, .error e) => (s, .error (.assignment e))
  | .read format text =>
    match ofDocument format text with
    | .ok page => (s.overlay page, .ok ())
    | .error e => (s, .error (.document e))

/-- The sheet after an operation, which may have failed. -/
def after (s : FactSheet) (op : Operation) : FactSheet := (s.perform op).1

/-- The sheet after operations, one after another. -/
def run (s : FactSheet) (ops : List Operation) : FactSheet := ops.foldl after s

namespace Operation

/-- An operation names a fact: it has a value for it, or its document says something about it. -/
inductive Names : Operation → Fact → Prop
  | set (key : Fact) (value : Float) : Names (set key value) key
  | overlay {top : FactSheet} {key : Fact} {v : Float} (known : top.get key = some v) :
    Names (overlay top) key
  | underlay {base : FactSheet} {key : Fact} {v : Float} (known : base.get key = some v) :
    Names (underlay base) key
  | assign {text : String} {key : Fact} {v : Float} (given : Assignment.Assigns text key v) :
    Names (assign text) key
  | read {format : Document.Format} {text : String} {es : List Document.Entry} {key : Fact}
    (told : Document.Tells format text es) (named : key ∈ es.map Prod.fst) :
    Names (read format text) key

/-- What an operation does to a finite map from facts to numbers. -/
inductive Maps (m : Fact → Option Float) : Operation → (Fact → Option Float) → Prop
  | set (key : Fact) (v : Float) : Maps m (set key v) (Function.update m key (some v))
  | overlay (top : FactSheet) : Maps m (overlay top) fun key => (top.get key).or (m key)
  | underlay (base : FactSheet) : Maps m (underlay base) fun key => (m key).or (base.get key)
  | assign {text : String} {key : Fact} {v : Float} (given : Assignment.Assigns text key v) :
    Maps m (assign text) (Function.update m key (some v))
  | malformed {text : String} (unassigned : ∀ key v, ¬ Assignment.Assigns text key v) :
    Maps m (assign text) m
  | read {format : Document.Format} {text : String} {es : List Document.Entry}
    (told : Document.Tells format text es) :
    Maps m (read format text) fun key => (Document.number? es key).or (m key)
  | unreadable {format : Document.Format} {text : String}
    (untold : ∀ es, ¬ Document.Tells format text es) : Maps m (read format text) m

/-- What operations do to a map, one after another. -/
inductive Reaches : (Fact → Option Float) → List Operation → (Fact → Option Float) → Prop
  | nil (m : Fact → Option Float) : Reaches m [] m
  | cons {m m' m'' : Fact → Option Float} {op : Operation} {ops : List Operation}
    (first : Maps m op m') (rest : Reaches m' ops m'') : Reaches m (op :: ops) m''

end Operation

open Operation

variable (s : FactSheet)

theorem get_set (key : Fact) (v : Float) :
    (s.set key v).get = Function.update s.get key (some v) := by
  funext other
  by_cases h : other = key
  · subst h
    simp
  · rw [get_set_of_ne s v h, Function.update_of_ne h]

theorem get_overlay_eq (top : FactSheet) :
    (s.overlay top).get = fun key => (top.get key).or (s.get key) :=
  funext fun key => get_overlay s top key

theorem carryOut_of_assigns {text : String} {key : Fact} {v : Float}
    (given : Assignment.Assigns text key v) : s.carryOut text = (s.set key v, .ok ()) := by
  rw [carryOut, (Assignment.ofText_eq_ok_iff text ⟨key, v⟩).2 given]
  rfl

theorem exists_carryOut_eq_error {text : String}
    (unassigned : ∀ key v, ¬ Assignment.Assigns text key v) :
    ∃ e, s.carryOut text = (s, .error e) := by
  cases given : Assignment.ofText text with
  | ok a => exact absurd ((Assignment.ofText_eq_ok_iff text a).1 given) (unassigned _ _)
  | error e => exact ⟨e, by rw [carryOut, given]⟩

/-! ### Following a map -/

/-- An operation that fails leaves the sheet alone. -/
theorem after_of_error {op : Operation} {e : Operation.Error}
    (failed : (s.perform op).2 = .error e) : s.after op = s := by
  cases op with
  | set key v => cases failed
  | overlay top => cases failed
  | underlay base => cases failed
  | assign text =>
    cases given : Assignment.ofText text with
    | ok a => simp [perform, carryOut, given] at failed
    | error cause => simp [after, perform, carryOut, given]
  | read format text =>
    cases given : ofDocument format text with
    | ok page => simp [perform, given] at failed
    | error cause => simp [after, perform, given]

theorem after_set (key : Fact) (v : Float) : s.after (.set key v) = s.set key v := rfl

theorem after_overlay (top : FactSheet) : s.after (.overlay top) = s.overlay top := rfl

theorem after_underlay (base : FactSheet) : s.after (.underlay base) = base.overlay s := rfl

theorem after_assign {text : String} {key : Fact} {v : Float}
    (given : Assignment.Assigns text key v) : s.after (.assign text) = s.set key v := by
  rw [after, perform, s.carryOut_of_assigns given]

theorem after_malformed {text : String} (unassigned : ∀ key v, ¬ Assignment.Assigns text key v) :
    s.after (.assign text) = s := by
  obtain ⟨e, failed⟩ := s.exists_carryOut_eq_error unassigned
  rw [after, perform, failed]

theorem after_read {format : Document.Format} {text : String} {es : List Document.Entry}
    (told : Document.Tells format text es) :
    s.after (.read format text) = s.overlay (ofEntries es) := by
  rw [after, perform, (ofDocument_eq_ok_iff _ _ _).2 ⟨es, told, rfl⟩]

theorem get_after_read {format : Document.Format} {text : String} {es : List Document.Entry}
    (told : Document.Tells format text es) :
    (s.after (.read format text)).get = fun key => (Document.number? es key).or (s.get key) := by
  rw [s.after_read told, get_overlay_eq]
  funext key
  rw [get_ofEntries told.nodup]

theorem after_unreadable {format : Document.Format} {text : String}
    (untold : ∀ es, ¬ Document.Tells format text es) : s.after (.read format text) = s := by
  cases read : ofDocument format text with
  | ok page =>
    obtain ⟨es, told, -⟩ := (ofDocument_eq_ok_iff _ _ _).1 read
    exact absurd told (untold es)
  | error e => rw [after, perform, read]

/-- An operation does to a sheet what it does to the map of its values. -/
theorem maps_get_after (op : Operation) : Maps s.get op (s.after op).get := by
  cases op with
  | set key v =>
    rw [after_set, get_set]
    exact .set key v
  | overlay top =>
    rw [after_overlay, get_overlay_eq]
    exact .overlay top
  | underlay base =>
    rw [after_underlay, get_overlay_eq]
    exact .underlay base
  | assign text =>
    by_cases h : ∃ key v, Assignment.Assigns text key v
    · obtain ⟨key, v, given⟩ := h
      rw [s.after_assign given, get_set]
      exact .assign given
    · simp only [not_exists] at h
      rw [s.after_malformed h]
      exact .malformed h
  | read format text =>
    by_cases h : ∃ es, Document.Tells format text es
    · obtain ⟨es, told⟩ := h
      rw [s.get_after_read told]
      exact .read told
    · simp only [not_exists] at h
      rw [s.after_unreadable h]
      exact .unreadable h

/-- What an operation does to a map is settled. -/
theorem Operation.Maps.eq_get_after {op : Operation} {m : Fact → Option Float}
    (h : Maps s.get op m) : m = (s.after op).get := by
  cases h with
  | set key v => rw [after_set, get_set]
  | overlay top => rw [after_overlay, get_overlay_eq]
  | underlay base => rw [after_underlay, get_overlay_eq]
  | assign given => rw [s.after_assign given, get_set]
  | malformed unassigned => rw [s.after_malformed unassigned]
  | read told => rw [s.get_after_read told]
  | unreadable untold => rw [s.after_unreadable untold]

/-- A sheet follows the map of its values over one operation. -/
theorem maps_iff (op : Operation) (m : Fact → Option Float) :
    Maps s.get op m ↔ m = (s.after op).get :=
  ⟨fun h => h.eq_get_after, fun h => h ▸ s.maps_get_after op⟩

/-- A sheet follows the map of its values over operations, one after another. -/
theorem reaches_iff (ops : List Operation) (m : Fact → Option Float) :
    Reaches s.get ops m ↔ m = (s.run ops).get := by
  induction ops generalizing s with
  | nil =>
    constructor
    · rintro ⟨⟩
      rfl
    · rintro rfl
      exact .nil _
  | cons op ops ih =>
    constructor
    · rintro (_ | ⟨first, rest⟩)
      obtain rfl := (s.maps_iff _ _).1 first
      exact (ih (s.after op)).1 rest
    · rintro rfl
      exact .cons (s.maps_get_after op) ((ih (s.after op)).2 rfl)

/-- An operation leaves the facts alone that it does not name. -/
theorem get_after_of_not_names {op : Operation} {key : Fact} (h : ¬ op.Names key) :
    (s.after op).get key = s.get key := by
  have none_of {sheet : FactSheet} (unnamed : ∀ v, sheet.get key ≠ some v) :
      sheet.get key = none := Option.eq_none_iff_forall_ne_some.2 unnamed
  have each (m : Fact → Option Float) (mapped : Maps s.get op m) : m key = s.get key := by
    cases mapped with
    | set other v =>
      refine Function.update_of_ne ?_ _ _
      rintro rfl
      exact h (.set key v)
    | overlay top => simp [none_of fun v known => h (.overlay known)]
    | underlay base => simp [none_of fun v known => h (.underlay known)]
    | assign given =>
      refine Function.update_of_ne ?_ _ _
      rintro rfl
      exact h (.assign given)
    | malformed => rfl
    | @read format text es told =>
      have unnamed : es.lookup key = none := by
        rw [List.lookup_eq_none_iff]
        intro entry he
        rw [bne_iff_ne]
        rintro rfl
        exact h (.read told (List.mem_map_of_mem he))
      simp [Document.number?, unnamed]
    | unreadable => rfl
  exact each _ (s.maps_get_after op)

/-! ### What is missing -/

/-- The missing facts stand in document order. -/
theorem missing_sublist : s.missing.Sublist Fact.all := List.filter_sublist

theorem mem_missing_iff (key : Fact) : key ∈ s.missing ↔ s.get key = none := by
  simp [missing]

/-! ### Layers -/

theorem overlay_empty : s.overlay empty = s := by
  apply ext_get
  intro key
  simp

theorem overlay_self : s.overlay s = s := by
  apply ext_get
  intro key
  rw [get_overlay]
  cases s.get key <;> rfl

/-- **A sheet that is filled by operations is a finite map from facts to numbers.**  Its values are
those that the operations give the map, its missing facts are those that the map lacks, and each
next operation hands back a sheet that differs in nothing but the facts that the operation names,
and in nothing at all if it fails.  Laying sheets over each other is associative and idempotent, the
empty sheet is neutral, and the upper sheet decides. -/
theorem run_follows_map (ops : List Operation) :
    let reached := empty.run ops
    (∀ m, Reaches (fun _ => none) ops m ↔ m = reached.get) ∧
      reached.missing.Sublist Fact.all ∧
      (∀ key, key ∈ reached.missing ↔ reached.get key = none) ∧
      (∀ op next outcome, reached.perform op = (next, outcome) →
        empty.run (ops ++ [op]) = next ∧ (∀ e, outcome = .error e → next = reached) ∧
          ∀ key, ¬ op.Names key → next.get key = reached.get key) ∧
      ∀ a b c : FactSheet, (a.overlay b).overlay c = a.overlay (b.overlay c) ∧
        empty.overlay a = a ∧ a.overlay empty = a ∧ a.overlay a = a ∧
        (∀ key v, b.get key = some v → (a.overlay b).get key = some v) ∧
        ∀ key, b.get key = none → (a.overlay b).get key = a.get key := by
  intro reached
  have last (op : Operation) : empty.run (ops ++ [op]) = reached.after op := by
    simp [run, reached]
  have nothing : (fun _ => none) = empty.get := funext fun key => (get_empty key).symm
  refine ⟨fun m => ?_, missing_sublist _, mem_missing_iff _, fun op next outcome done => ?_,
    fun a b c => ?_⟩
  · rw [nothing]
    exact reaches_iff _ _ _
  · obtain rfl : reached.after op = next := congrArg Prod.fst done
    refine ⟨last op, ?_, fun key unnamed => get_after_of_not_names _ unnamed⟩
    rintro e rfl
    exact after_of_error _ (congrArg Prod.snd done)
  · refine ⟨overlay_assoc a b c, empty_overlay a, overlay_empty a, overlay_self a, ?_, ?_⟩
    · intro key v known
      rw [get_overlay, known, Option.some_or]
    · intro key absent
      rw [get_overlay, absent, Option.none_or]

end FactSheet

end CallToAction
