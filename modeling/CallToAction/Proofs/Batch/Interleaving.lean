import CallToAction.Batch.Basic
import CallToAction.KnowledgeBase.Standard
import Mathlib.Data.List.Induction
import Mathlib.Data.List.Nodup
import Mathlib.Data.List.Perm.Basic
import Mathlib.Logic.Relation

/-!
# Batches whose tasks interleave

Each source of a batch has a task of its own, which reads the source and then analyzes its page.
The tasks take their steps in any order.  They share the files, which nobody writes, and the text on
the standard input, which is gone once it has been read; so at most one source may be the standard
input.

What a batch leads to is kept by every step, up to the order in which pages are finished, and
sorting by places undoes that order.

* `inOrder_eq_of_perm`: outcomes that are collected in any order are put back in order;
* `Step.perm_promised`, `Run.perm_promised`: what a batch leads to is kept by a step and by a run;
* `exists_run_of_perm`: tasks may be finished in every order;
* `interleaved_eq_alone`: each source has the outcome that it has alone.
-/

namespace CallToAction

/-- The inputs when this text is left on the standard input. -/
def Inputs.having (inputs : Inputs) (standard : String) : Inputs :=
  { inputs with standard := standard }

namespace Batch

/-! ### Outcomes in order -/

/-- The outcomes of sources, each with the place of its source. -/
def placed (outcome : Source → PageOutcome) (sources : List Source) : List (Nat × PageOutcome) :=
  sources.zipIdx.map fun (source, place) => (place, outcome source)

section Order

variable (outcome : Source → PageOutcome) (sources : List Source)

theorem map_fst_placed : (placed outcome sources).map Prod.fst = List.range sources.length := by
  rw [List.range_eq_range', ← List.zipIdx_map_snd 0 sources]
  simp only [placed, List.map_map]
  rfl

theorem map_snd_placed : (placed outcome sources).map Prod.snd = sources.map outcome := by
  have each :
      (placed outcome sources).map Prod.snd = (sources.zipIdx.map Prod.fst).map outcome := by
    simp only [placed, List.map_map]
    rfl
  rw [each, List.zipIdx_map_fst]

variable {outcome sources}

/-- Outcomes that are collected in any order are put back in the order of their sources. -/
theorem inOrder_eq_of_perm {finished : List (Nat × PageOutcome)}
    (h : finished.Perm (placed outcome sources)) : inOrder finished = sources.map outcome := by
  have trans : ∀ a b c : Nat × PageOutcome,
      decide (a.1 ≤ b.1) = true → decide (b.1 ≤ c.1) = true → decide (a.1 ≤ c.1) = true := by
    simp only [decide_eq_true_eq]
    exact fun a b c => Nat.le_trans
  have total : ∀ a b : Nat × PageOutcome, (decide (a.1 ≤ b.1) || decide (b.1 ≤ a.1)) = true := by
    simp only [Bool.or_eq_true, decide_eq_true_eq]
    exact fun a b => Nat.le_total a.1 b.1
  have sorted := (List.pairwise_mergeSort trans total finished).imp of_decide_eq_true
  have rising : (placed outcome sources).Pairwise fun a b => a.1 ≤ b.1 := by
    rw [← List.pairwise_map (f := Prod.fst) (R := (· ≤ ·)), map_fst_placed]
    exact List.pairwise_le_range
  -- the place tells the outcome, so there is one way to sort by places
  have telling : ∀ a ∈ placed outcome sources, ∀ b ∈ placed outcome sources, a.1 = b.1 → a = b := by
    apply List.inj_on_of_nodup_map
    rw [map_fst_placed]
    exact List.nodup_range
  have same : finished.mergeSort (fun a b => decide (a.1 ≤ b.1)) = placed outcome sources := by
    refine List.Perm.eq_of_pairwise ?_ sorted rising ((List.mergeSort_perm _ _).trans h)
    intro a b ha hb hab hba
    exact telling a (h.mem_iff.1 (List.mem_mergeSort.1 ha)) b hb (Nat.le_antisymm hab hba)
  rw [inOrder, same, map_snd_placed]

/-- Pages that are finished in the order of their sources are already in order. -/
theorem finished_range :
    finished outcome sources (List.range sources.length) = placed outcome sources := by
  induction sources using List.reverseRecOn with
  | nil => rfl
  | append_singleton sources last ih =>
    have earlier : (List.range sources.length).filterMap
          (fun place => (sources ++ [last])[place]?.map fun source => (place, outcome source)) =
        finished outcome sources (List.range sources.length) := by
      refine List.filterMap_congr fun place h => ?_
      rw [List.getElem?_append_left (List.mem_range.1 h)]
    rw [finished, List.length_append, List.length_singleton, List.range_succ,
      List.filterMap_append, earlier, ih]
    simp [placed, List.zipIdx_append]

end Order

/-- Whatever the order in which pages are finished, each source has the outcome that it has
alone. -/
theorem analyzeIn_eq_map (kb : KnowledgeBase) (layers : Layers) (inputs : Inputs)
    {sources : List Source} {order : List Nat} (h : order.Perm (List.range sources.length)) :
    analyzeIn order kb layers inputs sources = sources.map (outcome kb layers inputs) := by
  apply inOrder_eq_of_perm
  rw [← finished_range]
  exact h.filterMap _

theorem analyze_eq_map (kb : KnowledgeBase) (layers : Layers) (inputs : Inputs)
    (sources : List Source) :
    analyze kb layers inputs sources = sources.map (outcome kb layers inputs) :=
  analyzeIn_eq_map kb layers inputs (List.Perm.refl _)

/-! ### Tasks -/

/-- A task that is not finished. -/
inductive Task
  | unread (source : Source)
  /-- The source was read, with this success. -/
  | read (source : Source) (page : Except PageError FactSheet)

/-- What a batch has come to. -/
structure Progress where
  /-- The tasks that are not finished, each with the place of its source. -/
  tasks : List (Nat × Task)
  /-- What is left on the standard input. -/
  standard : String
  /-- The outcomes of finished tasks, in the order in which they were finished. -/
  finished : List (Nat × PageOutcome)

/-- What a batch starts with. -/
def Progress.start (standard : String) (sources : List Source) : Progress where
  tasks := sources.zipIdx.map fun (source, place) => (place, .unread source)
  standard := standard
  finished := []

/-- What reading a source leaves on the standard input. -/
def leftover (standard : String) : Source → String
  | .standardInput => ""
  | .inline | .file _ => standard

section Steps

variable (kb : KnowledgeBase) (layers : Layers) (inputs : Inputs)

/-- The outcome of a source that was read. -/
def outcomeOf (source : Source) (page : Except PageError FactSheet) : PageOutcome :=
  ⟨source.name, page >>= fun facts => kb.analyzeValid (layers.around facts)⟩

/-- A step of one of the tasks.  One that reads the standard input finds what is left on it. -/
inductive Step : Progress → Progress → Prop
  | read (before after : List (Nat × Task)) (place : Nat) (source : Source) (standard : String)
      (finished : List (Nat × PageOutcome)) :
    Step ⟨before ++ (place, .unread source) :: after, standard, finished⟩
      ⟨before ++ (place, .read source (source.read (inputs.having standard))) :: after,
        leftover standard source, finished⟩
  | finish (before after : List (Nat × Task)) (place : Nat) (source : Source)
      (page : Except PageError FactSheet) (standard : String)
      (finished : List (Nat × PageOutcome)) :
    Step ⟨before ++ (place, .read source page) :: after, standard, finished⟩
      ⟨before ++ after, standard, finished ++ [(place, outcomeOf kb layers source page)]⟩

/-- Steps of tasks, one after another. -/
abbrev Run : Progress → Progress → Prop := Relation.ReflTransGen (Step kb layers inputs)

/-- The outcome that a task leads to, if it finds this text on the standard input. -/
def Task.outcome (standard : String) : Task → PageOutcome
  | unread source => Batch.outcome kb layers (inputs.having standard) source
  | read source page => outcomeOf kb layers source page

/-- The outcomes that a batch leads to. -/
def Progress.promised (p : Progress) : List (Nat × PageOutcome) :=
  p.tasks.map (fun (place, task) => (place, task.outcome kb layers inputs p.standard)) ++ p.finished

end Steps

/-- Whether a task is about to read the standard input. -/
def Task.awaitsStandard : Task → Bool
  | unread .standardInput => true
  | _ => false

/-- How many tasks are about to read the standard input. -/
def Progress.awaiting (p : Progress) : Nat := p.tasks.countP fun (_, task) => task.awaitsStandard

section Runs

variable {kb : KnowledgeBase} {layers : Layers} {inputs : Inputs} {p q : Progress}

theorem outcome_eq_outcomeOf (inputs : Inputs) (source : Source) :
    outcome kb layers inputs source = outcomeOf kb layers source (source.read inputs) := by
  unfold outcome outcomeOf Source.analyze
  cases source.read inputs with
  | ok page => simp only [bind, Except.bind]
  | error e => simp only [bind, Except.bind]

/-- Only tasks that are about to read the standard input depend on it. -/
theorem Task.outcome_eq_of_not_awaitsStandard {task : Task} (h : task.awaitsStandard = false)
    (standard standard' : String) :
    task.outcome kb layers inputs standard = task.outcome kb layers inputs standard' := by
  cases task with
  | unread source =>
    cases source with
    | standardInput => cases h
    | inline => rfl
    | file path => rfl
  | read source page => rfl

theorem Step.awaiting_le (h : Step kb layers inputs p q) : q.awaiting ≤ p.awaiting := by
  cases h with
  | read before after place source standard finished =>
    simp [Progress.awaiting, Task.awaitsStandard, List.countP_cons]
  | finish before after place source page standard finished =>
    simp [Progress.awaiting, Task.awaitsStandard]

/-- What a batch leads to is kept by a step. -/
theorem Step.perm_promised (once : p.awaiting ≤ 1) (h : Step kb layers inputs p q) :
    (q.promised kb layers inputs).Perm (p.promised kb layers inputs) := by
  cases h with
  | read before after place source standard finished =>
    have here : Task.outcome kb layers inputs standard (.unread source) =
        outcomeOf kb layers source (source.read (inputs.having standard)) :=
      outcome_eq_outcomeOf _ _
    have others : ∀ t ∈ before ++ after,
        t.2.outcome kb layers inputs (leftover standard source) =
          t.2.outcome kb layers inputs standard := by
      intro t ht
      cases source with
      | inline => rfl
      | file path => rfl
      | standardInput =>
        -- the one task that awaits the standard input has just read it
        have none : (before ++ after).countP (fun t => t.2.awaitsStandard) = 0 := by
          simp only [Progress.awaiting, List.countP_append, List.countP_cons, Task.awaitsStandard,
            if_true] at once ⊢
          omega
        refine Task.outcome_eq_of_not_awaitsStandard ?_ _ _
        simpa using List.countP_eq_zero.1 none t ht
    have kept : ∀ ts ⊆ before ++ after,
        ts.map (fun t => (t.1, t.2.outcome kb layers inputs (leftover standard source))) =
          ts.map fun t => (t.1, t.2.outcome kb layers inputs standard) :=
      fun ts h => List.map_congr_left fun t ht => by rw [others t (h ht)]
    simp only [Progress.promised, List.map_append, List.map_cons]
    rw [kept before (List.subset_append_left _ _), kept after (List.subset_append_right _ _), here]
    rfl
  | finish before after place source page standard finished =>
    -- the outcome leaves its place among the tasks for the end of the finished ones
    simp only [Progress.promised, List.map_append, List.map_cons, List.append_assoc,
      List.cons_append]
    exact .append_left _
      (.trans (.append_left _ (List.perm_append_singleton _ _)) List.perm_middle)

theorem Run.awaiting_le (h : Run kb layers inputs p q) : q.awaiting ≤ p.awaiting := by
  induction h with
  | refl => exact Nat.le_refl _
  | tail _ step ih => exact Nat.le_trans step.awaiting_le ih

/-- What a batch leads to is kept by a run. -/
theorem Run.perm_promised (once : p.awaiting ≤ 1) (h : Run kb layers inputs p q) :
    (q.promised kb layers inputs).Perm (p.promised kb layers inputs) := by
  induction h with
  | refl => exact .refl _
  | tail run step ih =>
    exact (step.perm_promised (Nat.le_trans (Run.awaiting_le run) once)).trans ih

variable (kb layers inputs) in
/-- A task can be finished whatever the others have come to. -/
theorem exists_run_finishing (before after : List (Nat × Task)) (place : Nat) (task : Task)
    (standard : String) (finished : List (Nat × PageOutcome)) :
    ∃ left o, Run kb layers inputs ⟨before ++ (place, task) :: after, standard, finished⟩
      ⟨before ++ after, left, finished ++ [(place, o)]⟩ := by
  cases task with
  | read source page => exact ⟨_, _, .single (.finish ..)⟩
  | unread source => exact ⟨_, _, .tail (.single (.read ..)) (.finish ..)⟩

variable (kb layers inputs) in
/-- Tasks may be finished in every order. -/
theorem exists_run_of_perm {order : List Nat} (h : order.Perm (p.tasks.map Prod.fst)) :
    ∃ q, Run kb layers inputs p q ∧ q.tasks = [] ∧
      q.finished.map Prod.fst = p.finished.map Prod.fst ++ order := by
  induction order generalizing p with
  | nil => exact ⟨p, .refl, List.map_eq_nil_iff.1 h.symm.eq_nil, (List.append_nil _).symm⟩
  | cons place order ih =>
    obtain ⟨tasks, standard, finished⟩ := p
    obtain ⟨⟨place, task⟩, ht, rfl⟩ := List.mem_map.1 (h.subset List.mem_cons_self)
    obtain ⟨before, after, rfl⟩ := List.append_of_mem ht
    obtain ⟨left, o, first⟩ :=
      exists_run_finishing kb layers inputs before after place task standard finished
    have rest : order.Perm ((before ++ after).map Prod.fst) := by
      rw [List.map_append, List.map_cons] at h
      rw [List.map_append]
      exact (h.trans List.perm_middle).cons_inv
    obtain ⟨q, later, done, places⟩ := @ih ⟨before ++ after, left, finished ++ [(place, o)]⟩ rest
    exact ⟨q, first.trans later, done, by simpa using places⟩

end Runs

/-! ### Outcomes of a batch -/

section Outcomes

variable (kb : KnowledgeBase) (layers : Layers) (inputs : Inputs) (sources : List Source)

/-- The batch may end with these outcomes. -/
def EndsWith (os : List PageOutcome) : Prop :=
  ∃ p, Run kb layers inputs (.start inputs.standard sources) p ∧ p.tasks = [] ∧
    os = inOrder p.finished

theorem map_fst_start :
    (Progress.start inputs.standard sources).tasks.map Prod.fst = List.range sources.length := by
  rw [List.range_eq_range', ← List.zipIdx_map_snd 0 sources]
  simp only [Progress.start, List.map_map]
  rfl

theorem awaiting_start :
    (Progress.start inputs.standard sources).awaiting = sources.count .standardInput := by
  have unread (source : Source) :
      (Task.unread source).awaitsStandard = (source == .standardInput) := by
    cases source <;> rfl
  simp only [Progress.awaiting, Progress.start, List.countP_map, List.count]
  conv_rhs => rw [← List.zipIdx_map_fst 0 sources, List.countP_map]
  exact List.countP_congr fun t _ => by simp [unread]

theorem promised_start :
    (Progress.start inputs.standard sources).promised kb layers inputs =
      placed (outcome kb layers inputs) sources := by
  simp only [Progress.promised, Progress.start, List.append_nil, List.map_map]
  rfl

variable {kb layers inputs sources}

/-- The outcomes that a batch ends with are those that its sources have alone. -/
theorem EndsWith.eq_map (once : sources.count .standardInput ≤ 1) {os : List PageOutcome}
    (h : EndsWith kb layers inputs sources os) :
    os = sources.map (outcome kb layers inputs) := by
  obtain ⟨p, run, done, rfl⟩ := h
  have kept := run.perm_promised (awaiting_start inputs sources ▸ once)
  have all : p.promised kb layers inputs = p.finished := by
    rw [Progress.promised, done]
    rfl
  rw [promised_start, all] at kept
  exact inOrder_eq_of_perm kept

variable (kb layers inputs) in
/-- **However its tasks interleave, a batch ends with the outcomes that its sources have alone.**
It always can end, with pages finished in any order, and a source whose place and facts are the same
in another batch has the same outcome there, whatever stands at the other places. -/
theorem interleaved_eq_alone (once : sources.count .standardInput ≤ 1) :
    let start := Progress.start inputs.standard sources
    let alone : List PageOutcome :=
      sources.map fun source => ⟨source.name, source.analyze kb layers inputs⟩
    (∀ os, EndsWith kb layers inputs sources os ↔ os = alone) ∧
      (∀ p, Run kb layers inputs start p →
        ∃ q, Run kb layers inputs p q ∧ q.tasks = []) ∧
      (∀ order : List Nat, order.Perm (List.range sources.length) →
        (∃ p, Run kb layers inputs start p ∧ p.tasks = [] ∧
          p.finished.map Prod.fst = order) ∧
        analyzeIn order kb layers inputs sources = alone) ∧
      analyze kb layers inputs sources = alone ∧
      ∀ (inputs' : Inputs) (sources' : List Source) (os os' : List PageOutcome),
        sources'.count .standardInput ≤ 1 →
        EndsWith kb layers inputs sources os → EndsWith kb layers inputs' sources' os' →
        ∀ (place : Nat) (source : Source), sources[place]? = some source →
          sources'[place]? = some source → source.read inputs' = source.read inputs →
          os'[place]? = os[place]? := by
  intro start alone
  have finishes (order : List Nat) (h : order.Perm (List.range sources.length)) :
      ∃ p, Run kb layers inputs start p ∧ p.tasks = [] ∧ p.finished.map Prod.fst = order := by
    exact exists_run_of_perm kb layers inputs
      (h.trans (.of_eq (map_fst_start inputs sources).symm))
  refine ⟨fun os => ⟨fun h => h.eq_map once, ?_⟩, ?_, ?_, analyze_eq_map _ _ _ _, ?_⟩
  · rintro rfl
    obtain ⟨p, run, done, -⟩ := finishes _ (.refl _)
    have ends : EndsWith kb layers inputs sources (inOrder p.finished) := ⟨p, run, done, rfl⟩
    exact ⟨p, run, done, (ends.eq_map once).symm⟩
  · intro p _
    obtain ⟨q, run, done, -⟩ :=
      exists_run_of_perm kb layers inputs (List.Perm.refl (p.tasks.map Prod.fst))
    exact ⟨q, run, done⟩
  · intro order h
    exact ⟨finishes order h, analyzeIn_eq_map _ _ _ h⟩
  · intro inputs' sources' os os' once' ends ends' place source here here' same
    rw [ends.eq_map once, ends'.eq_map once', List.getElem?_map, List.getElem?_map, here, here']
    simp only [Option.map_some, outcome_eq_outcomeOf, same]

/-- A file that is given twice beside the standard input, finished from the last source to the
second. -/
theorem interleaved_eq_alone_repeated :
    let sources : List Source := [.file "a.yaml", .standardInput, .file "a.yaml"]
    let inputs : Inputs := ⟨.empty, "cta_width: 150"⟩
    let layers : Layers := ⟨.defaults, .empty⟩
    sources.count .standardInput ≤ 1 ∧
      ∃ p, Run .standard layers inputs (.start inputs.standard sources) p ∧ p.tasks = [] ∧
        p.finished.map Prod.fst = [2, 0, 1] ∧
        inOrder p.finished =
          sources.map fun source => ⟨source.name, source.analyze .standard layers inputs⟩ := by
  intro sources inputs layers
  have once : sources.count .standardInput ≤ 1 := by decide
  obtain ⟨ends, -, orders, -⟩ := interleaved_eq_alone .standard layers inputs once
  obtain ⟨⟨p, run, done, places⟩, -⟩ := orders [2, 0, 1] (by decide)
  exact ⟨once, p, run, done, places, (ends _).1 ⟨p, run, done, rfl⟩⟩

end Outcomes

end Batch

end CallToAction
