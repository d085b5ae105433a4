import CallToAction.Report.Basic
import Mathlib.Data.List.Nodup
import Mathlib.Data.List.Perm.Basic
import Mathlib.Data.List.Sort

/-!
# The ranking of findings

An occurrence of a rule is the rule with its place in the declaration, so a rule that is declared
twice has two occurrences.  On one page every occurrence is ranked, idle or failed, and the ranked
ones stand by falling priority with ties in the order of declaration.

* `mergeSort_cons_eq`: sorting a list inserts its head before the elements that may follow it;
* `mergeSort_filter`: sorting a selection is selecting from what is sorted;
* `mem_activated_iff`, `mem_failed_iff`: which rules an evaluation lists;
* `activated_sublist`: rules that hold of more pages are found in the same order;
* `evaluate_ranks`: every occurrence is listed once, in the one order that ranks them.
-/

namespace CallToAction

/-! ### Stable sorting -/

section Sorting

variable {α : Type} {le : α → α → Bool}

/-- Sorting a list inserts its head into the sorted tail, before the first element that may follow
it. -/
theorem mergeSort_cons_eq (trans : ∀ a b c, le a b → le b c → le a c)
    (total : ∀ a b, le a b || le b a) (a : α) (l : List α) :
    (a :: l).mergeSort le =
      (l.mergeSort le).filter (fun b => !le a b) ++ a :: (l.mergeSort le).filter (le a) := by
  obtain ⟨l₁, l₂, whole, tail, before⟩ := List.mergeSort_cons trans total a l
  have sorted := List.pairwise_mergeSort trans total (a :: l)
  rw [whole] at sorted
  -- the library puts `a` behind `l₁`, whose elements may not follow it; those of `l₂` may
  have after : ∀ b ∈ l₂, le a b := (List.pairwise_cons.1 (List.pairwise_append.1 sorted).2.1).1
  have left₁ : l₁.filter (fun b => !le a b) = l₁ := List.filter_eq_self.2 before
  have left₂ : l₂.filter (fun b => !le a b) = [] :=
    List.filter_eq_nil_iff.2 fun b hb => by simp [after b hb]
  have right₁ : l₁.filter (le a) = [] :=
    List.filter_eq_nil_iff.2 fun b hb => by simpa using before b hb
  have right₂ : l₂.filter (le a) = l₂ := List.filter_eq_self.2 after
  rw [whole, tail, List.filter_append, List.filter_append, left₁, left₂, right₁, right₂,
    List.append_nil, List.nil_append]

/-- Sorting a selection is selecting from the sorted list. -/
theorem mergeSort_filter (trans : ∀ a b c, le a b → le b c → le a c)
    (total : ∀ a b, le a b || le b a) (p : α → Bool) (l : List α) :
    (l.filter p).mergeSort le = (l.mergeSort le).filter p := by
  induction l with
  | nil => simp
  | cons a l ih =>
    have swap : ∀ q : α → Bool,
        ((l.mergeSort le).filter p).filter q = ((l.mergeSort le).filter q).filter p := by
      intro q
      rw [List.filter_filter, List.filter_filter]
      exact List.filter_congr fun b _ => Bool.and_comm _ _
    by_cases ha : p a
    · rw [List.filter_cons_of_pos ha, mergeSort_cons_eq trans total, mergeSort_cons_eq trans total,
        ih, List.filter_append, List.filter_cons_of_pos ha, swap, swap]
    · -- without `a` the sorted list is the sorted tail
      obtain ⟨l₁, l₂, whole, tail, -⟩ := List.mergeSort_cons trans total a l
      rw [List.filter_cons_of_neg ha, ih, whole, tail, List.filter_append, List.filter_append,
        List.filter_cons_of_neg ha]

/-- Sorting by an order and then by places is sorting by the order alone, where the places rise. -/
theorem map_fst_mergeSort (trans : ∀ a b c, le a b → le b c → le a c)
    (total : ∀ a b, le a b || le b a) {d : List (α × ℕ)}
    (rising : d.Pairwise fun a b => a.2 < b.2) :
    (d.mergeSort (List.zipIdxLE le)).map Prod.fst = (d.map Prod.fst).mergeSort le := by
  induction rising with
  | nil => simp
  | @cons a d first _ ih =>
    -- behind its place in the declaration an element compares by the order alone
    have behind : ∀ b ∈ d.mergeSort (List.zipIdxLE le), List.zipIdxLE le a b = le a.1 b.1 := by
      intro b hb
      have := first b (List.mem_mergeSort.1 hb)
      unfold List.zipIdxLE
      by_cases hab : le a.1 b.1 <;> simp [hab, this.le]
    rw [mergeSort_cons_eq (List.zipIdxLE_trans trans) (List.zipIdxLE_total total), List.map_cons,
      mergeSort_cons_eq trans total, ← ih, List.map_append, List.map_cons, List.filter_map,
      List.filter_map]
    congr 2
    · exact List.filter_congr fun b hb => by simp [behind b hb]
    · congr 1
      exact List.filter_congr fun b hb => by simp [behind b hb]

end Sorting

/-! ### Membership -/

theorem Rule.precedes_trans (a b c : Rule) :
    a.precedes b → b.precedes c → a.precedes c := by
  simp only [Rule.precedes, decide_eq_true_eq]
  intro hab hbc
  exact hbc.trans hab

theorem Rule.precedes_total (a b : Rule) : a.precedes b || b.precedes a := by
  simp only [Rule.precedes, Bool.or_eq_true, decide_eq_true_eq]
  exact Int.le_total b.priority a.priority

theorem Rule.outcome_eq_activated_iff (r : Rule) (page : Page) :
    r.outcome page = .activated ↔ r.condition.evaluate page = .ok true := by
  unfold Rule.outcome
  split <;> simp_all

theorem Rule.outcome_eq_notActivated_iff (r : Rule) (page : Page) :
    r.outcome page = .notActivated ↔ r.condition.evaluate page = .ok false := by
  unfold Rule.outcome
  split <;> simp_all

theorem Rule.error?_eq_some_iff (r : Rule) (page : Page) (e : EvaluationError) :
    r.error? page = some e ↔ r.condition.evaluate page = .error e := by
  unfold Rule.error? Rule.outcome
  cases r.condition.evaluate page with
  | ok b => cases b <;> simp
  | error e => simp

namespace KnowledgeBase

variable (kb : KnowledgeBase) (facts : FactSheet)

theorem mem_activated_iff (r : Rule) :
    r ∈ (kb.evaluate facts).activated ↔
      r ∈ kb.rules ∧ r.condition.evaluate (.ofFacts facts) = .ok true := by
  simp [evaluate, Rule.outcome_eq_activated_iff]

theorem mem_failed_iff (r : Rule) (e : EvaluationError) :
    (r, e) ∈ (kb.evaluate facts).failed ↔
      r ∈ kb.rules ∧ r.condition.evaluate (.ofFacts facts) = .error e := by
  simp [evaluate, ← Rule.error?_eq_some_iff]

/-- Where every rule that holds of one page holds of another one, the findings on the first page
stand among those on the second in the same order. -/
theorem activated_sublist {s t : FactSheet}
    (h : ∀ r ∈ kb.rules, r.condition.evaluate (.ofFacts s) = .ok true →
      r.condition.evaluate (.ofFacts t) = .ok true) :
    (kb.evaluate s).activated.Sublist (kb.evaluate t).activated := by
  have selected : kb.rules.filter (fun r => r.outcome (.ofFacts s) = .activated) =
      (kb.rules.filter fun r => r.outcome (.ofFacts t) = .activated).filter
        fun r => r.outcome (.ofFacts s) = .activated := by
    rw [List.filter_filter]
    refine List.filter_congr fun r hr => ?_
    rw [Bool.eq_iff_iff]
    simp only [Bool.and_eq_true, decide_eq_true_eq, Rule.outcome_eq_activated_iff]
    exact ⟨fun hs => ⟨hs, h r hr hs⟩, And.left⟩
  show (List.mergeSort _ _).Sublist (List.mergeSort _ _)
  rw [selected, mergeSort_filter Rule.precedes_trans Rule.precedes_total]
  exact List.filter_sublist

end KnowledgeBase

/-! ### Occurrences -/

/-- A rule with its place in the declaration. -/
abbrev Occurrence := Rule × ℕ

namespace Occurrence

/-- The order of findings: by falling priority, rules of equal priority by their places. -/
structure Ranked (os : List Occurrence) : Prop where
  falling : os.Pairwise fun a b => b.1.priority ≤ a.1.priority
  declared : os.Pairwise fun a b => a.1.priority = b.1.priority → a.2 < b.2

/-- There is one way to rank given occurrences. -/
theorem Ranked.eq_of_perm {os os' : List Occurrence} (h : Ranked os) (h' : Ranked os')
    (perm : os.Perm os') : os = os' := by
  refine List.Perm.eq_of_pairwise ?_ (h.falling.and h.declared) (h'.falling.and h'.declared) perm
  rintro a b - - ⟨hab, hab'⟩ ⟨hba, hba'⟩
  -- they would have the same priority, and each a smaller place than the other
  have := hab' (le_antisymm hba hab)
  have := hba' (le_antisymm hab hba)
  omega

/-- Occurrences sorted by the order of findings are ranked. -/
theorem ranked_mergeSort {os : List Occurrence} (rising : os.Pairwise fun a b => a.2 < b.2) :
    Ranked (os.mergeSort (List.zipIdxLE Rule.precedes)) := by
  have sorted := List.pairwise_mergeSort (List.zipIdxLE_trans Rule.precedes_trans)
    (List.zipIdxLE_total Rule.precedes_total) os
  have distinct : (os.mergeSort (List.zipIdxLE Rule.precedes)).Pairwise fun a b => a.2 ≠ b.2 :=
    (List.mergeSort_perm os _).symm.pairwise (rising.imp Nat.ne_of_lt) Ne.symm
  have order : ∀ {a b : Occurrence}, List.zipIdxLE Rule.precedes a b = true →
      b.1.priority ≤ a.1.priority ∧ (a.1.priority = b.1.priority → a.2 ≤ b.2) := by
    intro a b h
    simp only [List.zipIdxLE, Rule.precedes, decide_eq_true_eq] at h
    split_ifs at h with hab hba
    · exact ⟨hab, fun _ => by simpa using h⟩
    · exact ⟨hab, fun e => absurd e.le hba⟩
  refine ⟨sorted.imp fun h => (order h).1, (sorted.and distinct).imp ?_⟩
  rintro a b ⟨h, different⟩ same
  exact lt_of_le_of_ne ((order h).2 same) different

end Occurrence

namespace KnowledgeBase

/-- The occurrences of rules, in the order of their declaration. -/
def occurrences (kb : KnowledgeBase) : List Occurrence := kb.rules.zipIdx

/-- What becomes of the occurrences on a page: each of them is in one of the three lists, once. -/
structure Split (kb : KnowledgeBase) (page : Page) (ranked failed idle : List Occurrence) :
    Prop where
  complete : (ranked ++ failed ++ idle).Perm kb.occurrences
  holds : ∀ o ∈ ranked, o.1.condition.evaluate page = .ok true
  errs : ∀ o ∈ failed, ∃ e, o.1.condition.evaluate page = .error e
  rejects : ∀ o ∈ idle, o.1.condition.evaluate page = .ok false

theorem map_fst_occurrences (kb : KnowledgeBase) : kb.occurrences.map Prod.fst = kb.rules :=
  List.zipIdx_map_fst 0 kb.rules

theorem occurrences_rising (kb : KnowledgeBase) :
    kb.occurrences.Pairwise fun a b => a.2 < b.2 := by
  have places : kb.occurrences.map Prod.snd = List.range' 0 kb.rules.length :=
    List.zipIdx_map_snd 0 kb.rules
  rw [← List.pairwise_map (f := Prod.snd) (R := (· < ·)), places]
  exact List.pairwise_lt_range'

/-- The occurrences whose condition holds of a page, in the order of findings. -/
def ranked (kb : KnowledgeBase) (page : Page) : List Occurrence :=
  (kb.occurrences.filter fun o => o.1.outcome page = .activated).mergeSort
    (List.zipIdxLE Rule.precedes)

/-- The occurrences that cannot be evaluated on a page, in the order of their declaration. -/
def failing (kb : KnowledgeBase) (page : Page) : List Occurrence :=
  kb.occurrences.filter fun o => (o.1.error? page).isSome

/-- The occurrences whose condition does not hold of a page. -/
def idle (kb : KnowledgeBase) (page : Page) : List Occurrence :=
  kb.occurrences.filter fun o => o.1.outcome page = .notActivated

variable (kb : KnowledgeBase)

theorem activated_eq_ranked (facts : FactSheet) :
    (kb.evaluate facts).activated = (kb.ranked (.ofFacts facts)).map Prod.fst := by
  have selected : (kb.occurrences.filter fun o => o.1.outcome (.ofFacts facts) = .activated).map
      Prod.fst = kb.rules.filter fun r => r.outcome (.ofFacts facts) = .activated := by
    rw [← map_fst_occurrences, List.filter_map]
    rfl
  rw [ranked, map_fst_mergeSort Rule.precedes_trans Rule.precedes_total
    (kb.occurrences_rising.filter _), selected]
  rfl

/-- What a page does to the occurrences of the rules. -/
theorem split (page : Page) :
    kb.Split page (kb.ranked page) (kb.failing page) (kb.idle page) where
  complete := by
    -- the activated ones are set apart first, then the failed ones from the rest
    set rest := kb.occurrences.filter fun o => !decide (o.1.outcome page = .activated) with hrest
    have failing : kb.failing page = rest.filter fun o => (o.1.error? page).isSome := by
      rw [hrest, List.filter_filter]
      refine List.filter_congr fun o _ => ?_
      cases h : o.1.outcome page <;> simp [Rule.error?, h]
    have idle : kb.idle page = rest.filter fun o => !(o.1.error? page).isSome := by
      rw [hrest, List.filter_filter]
      refine List.filter_congr fun o _ => ?_
      cases h : o.1.outcome page <;> simp [Rule.error?, h]
    rw [List.append_assoc, failing, idle]
    exact ((List.mergeSort_perm _ _).append (List.filter_append_perm _ rest)).trans
      (List.filter_append_perm _ _)
  holds o ho := by
    have := (List.mem_filter.1 (List.mem_mergeSort.1 ho)).2
    exact (Rule.outcome_eq_activated_iff _ _).1 (by simpa using this)
  errs o ho := by
    obtain ⟨e, he⟩ := Option.isSome_iff_exists.1 (List.mem_filter.1 ho).2
    exact ⟨e, (Rule.error?_eq_some_iff _ _ _).1 he⟩
  rejects o ho := by
    have := (List.mem_filter.1 ho).2
    exact (Rule.outcome_eq_notActivated_iff _ _).1 (by simpa using this)

/-- The failures that an evaluation lists are those of the failing occurrences, one for one. -/
theorem forall₂_failing (facts : FactSheet) :
    List.Forall₂
      (fun o f => f.1 = o.1 ∧ o.1.condition.evaluate (.ofFacts facts) = .error f.2)
      (kb.failing (.ofFacts facts)) (kb.evaluate facts).failed := by
  have listed : (kb.evaluate facts).failed =
      kb.occurrences.filterMap fun o => (o.1.error? (.ofFacts facts)).map (o.1, ·) := by
    show kb.rules.filterMap _ = _
    rw [← map_fst_occurrences, List.filterMap_map]
    rfl
  rw [listed, failing]
  induction kb.occurrences with
  | nil => exact .nil
  | cons o os ih =>
    cases he : o.1.error? (.ofFacts facts) with
    | none => simpa [he] using ih
    | some e =>
      simp only [List.filter_cons, he, Option.isSome_some, if_true, List.filterMap_cons,
        Option.map_some]
      exact .cons ⟨rfl, (Rule.error?_eq_some_iff _ _ _).1 he⟩ ih

/-- **Every occurrence of a rule is listed once.**  The activated rules are those of the one ranking
of the occurrences that hold, the failed ones stand in the order of their declaration with their
errors, and the first five conclusions are recommended, the first three in a digest. -/
theorem evaluate_ranks (facts : FactSheet) :
    let page := Page.ofFacts facts
    let e := kb.evaluate facts
    ∃ ranked failed idle : List Occurrence,
      kb.Split page ranked failed idle ∧
      Occurrence.Ranked ranked ∧
      (∀ other, Occurrence.Ranked other → other.Perm ranked → other = ranked) ∧
      e.activated = ranked.map Prod.fst ∧
      failed.Pairwise (fun a b => a.2 < b.2) ∧
      List.Forall₂ (fun o f => f.1 = o.1 ∧ o.1.condition.evaluate page = .error f.2)
        failed e.failed ∧
      e.recommendations = (e.activated.take (min 5 e.activated.length)).map (·.conclusion) ∧
      (kb.analyze facts).digest.recommendations =
        (e.activated.take (min 3 e.activated.length)).map (·.conclusion) := by
  intro page e
  have ranked : Occurrence.Ranked (kb.ranked page) :=
    Occurrence.ranked_mergeSort (kb.occurrences_rising.filter _)
  refine ⟨kb.ranked page, kb.failing page, kb.idle page, kb.split page, ranked,
    fun other h perm => h.eq_of_perm ranked perm, kb.activated_eq_ranked facts,
    kb.occurrences_rising.filter _, kb.forall₂_failing facts, ?_, ?_⟩
  · rw [← List.take_eq_take_min]
    rfl
  · rw [← List.take_eq_take_min]
    show ((e.activated.take 5).map (·.conclusion)).take 3 = _
    rw [← List.map_take, List.take_take]
    rfl

end KnowledgeBase

end CallToAction
