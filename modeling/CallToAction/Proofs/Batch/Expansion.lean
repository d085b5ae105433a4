import Mathlib.Data.List.Forall2
import Mathlib.Data.List.Perm.Basic
import Mathlib.Data.Set.List
import CallToAction.Batch.Source
import CallToAction.Proofs.Glob.Listing

/-!
# Expansion of inputs

Inputs become sources one after another.  `Expands` tells what a single input stands for and
`Offends` why it stands for nothing, behind the inputs before it.  The walk over the inputs has only
to remember whether the standard input was among them; `ofMore_step` says what it does with one more
input, and everything about lists follows from that.

* `ofMore_outcome`: the sources of all inputs in a row, or the complaint about the first input that
  offends;
* `ofMore_append`: a list of inputs is expanded part by part;
* `expand_outcome`: the same of whole command lines, whatever patterns are looked up in.
-/

namespace CallToAction

/-- A text with an asterisk, a question mark or an opening bracket. -/
def Wild (text : String) : Prop :=
  '*' ∈ text.toList ∨ '?' ∈ text.toList ∨ '[' ∈ text.toList

theorem isPattern_iff (text : String) : isPattern text = true ↔ Wild text := by
  simp only [isPattern, Wild, List.any_eq_true, Bool.or_eq_true, beq_iff_eq]
  constructor
  · rintro ⟨c, member, (rfl | rfl) | rfl⟩ <;> simp [member]
  · rintro (member | member | member) <;> exact ⟨_, member, by simp⟩

theorem not_wild_hyphen : ¬ Wild "-" := by
  rw [← isPattern_iff]
  decide

namespace Glob

theorem gather_eq_ok_iff {found : List (Except Refusal String)} {paths : List String} :
    gather found = .ok paths ↔ found = paths.map .ok := by
  fun_induction gather found generalizing paths with
  | case1 => cases paths <;> simp
  | case2 path found ih =>
    cases paths with
    | nil => cases gather found <;> simp [Except.map]
    | cons p paths =>
      cases h : gather found with
      | ok others => simp [Except.map, ← ih, h]
      | error refusal => simp [Except.map, ← ih, h]
  | case3 refusal found => cases paths <;> simp

theorem gather_eq_error_iff {found : List (Except Refusal String)} {refusal : Refusal} :
    gather found = .error refusal ↔
      ∃ (paths : List String) (later : List (Except Refusal String)),
        found = paths.map .ok ++ .error refusal :: later := by
  fun_induction gather found with
  | case1 => simp
  | case2 path found ih =>
    have behind : (gather found).map (path :: ·) = .error refusal ↔
        gather found = .error refusal := by
      cases gather found <;> simp [Except.map]
    rw [behind, ih]
    constructor
    · rintro ⟨paths, later, rfl⟩
      exact ⟨path :: paths, later, rfl⟩
    · rintro ⟨paths, later, eq⟩
      cases paths with
      | nil => cases eq
      | cons p paths =>
        cases eq
        exact ⟨paths, later, rfl⟩
  | case3 first found =>
    constructor
    · rintro ⟨⟩
      exact ⟨[], found, rfl⟩
    · rintro ⟨paths, later, eq⟩
      cases paths with
      | nil =>
        cases eq
        rfl
      | cons p paths => cases eq

/-- What is looked up in two ways is found in both, in one order or another. -/
def Reordered (look look' : Look) : Prop :=
  ∀ text, (∀ cause, look text = .error cause → look' text = .error cause) ∧
    ∀ found, look text = .ok found → ∃ found', look' text = .ok found' ∧ found.Perm found'

end Glob

namespace Source

/-- The sources that an input stands for. -/
inductive Expands (look : Glob.Look) : String → List Source → Prop
  | standardInput : Expands look "-" [standardInput]
  /-- The paths that fit a pattern, by their components. -/
  | pattern {input : String} {found paths : List String} (wild : Wild input)
      (found_eq : look input = .ok (found.map .ok)) (found_ne : found ≠ [])
      (same : paths.Perm found) (sorted : paths.Pairwise fun p q => Path.key p ≤ Path.key q) :
      Expands look input (paths.map file)
  | path {input : String} (plain : ¬ Wild input) (ne : input ≠ "-") :
      Expands look input [file input]

/-- Why an input stands for nothing, behind the inputs before it. -/
inductive Offends (look : Glob.Look) (before : List String) : String → InputError → Prop
  | repeated (given : "-" ∈ before) : Offends look before "-" .repeatedStandardInput
  | invalid {input : String} {cause : PatternError} (wild : Wild input)
      (refused : look input = .error cause) :
      Offends look before input (.invalidPattern input cause)
  | unreadable {input : String} {paths : List String} {cause : Glob.Refusal}
      {later : List (Except Glob.Refusal String)} (wild : Wild input)
      (found_eq : look input = .ok (paths.map .ok ++ .error cause :: later)) :
      Offends look before input (.unreadablePattern input cause)
  | noMatch {input : String} (wild : Wild input) (found_eq : look input = .ok []) :
      Offends look before input (.noMatch input)

/-- Inputs of which none offends, behind the inputs before them. -/
def Clean (look : Glob.Look) (before inputs : List String) : Prop :=
  ∀ earlier input later, inputs = earlier ++ input :: later →
    ∀ cause, ¬ Offends look (before ++ earlier) input cause

variable {look : Glob.Look}

/-! ### One input -/

theorem ofPattern_of_found {pattern : String} {found : List String}
    (found_eq : look pattern = .ok (found.map .ok)) (found_ne : found ≠ []) :
    ofPattern look pattern = .ok ((found.mergeSort Path.precedes).map file) := by
  have gathered := Glob.gather_eq_ok_iff.2 (Eq.refl (found.map Except.ok))
  cases found with
  | nil => contradiction
  | cons path found => simp only [ofPattern, found_eq, gathered]

theorem found_of_ofPattern {pattern : String} {part : List Source}
    (h : ofPattern look pattern = .ok part) :
    ∃ found : List String, look pattern = .ok (found.map .ok) ∧ found ≠ [] ∧
      part = (found.mergeSort Path.precedes).map file := by
  unfold ofPattern at h
  split at h
  · cases h
  · rename_i found looked
    split at h
    · cases h
    · cases h
    · rename_i paths some gathered
      cases h
      rw [Glob.gather_eq_ok_iff.1 gathered] at looked
      exact ⟨paths, looked, some, rfl⟩

theorem expands_of_ofPattern {input : String} {part : List Source} (wild : Wild input)
    (h : ofPattern look input = .ok part) : Expands look input part := by
  obtain ⟨found, found_eq, found_ne, rfl⟩ := found_of_ofPattern h
  exact .pattern wild found_eq found_ne (List.mergeSort_perm _ _)
    (pairwise_mergeSort_key Path.precedes_iff _)

theorem offends_iff_of_wild (before : List String) {input : String} {cause : InputError}
    (wild : Wild input) :
    Offends look before input cause ↔ ofPattern look input = .error cause := by
  constructor
  · intro offends
    cases offends with
    | repeated given => exact absurd wild not_wild_hyphen
    | invalid wild refused => simp only [ofPattern, refused]
    | @unreadable _ paths refusal later _ found_eq =>
      have gathered : Glob.gather (paths.map .ok ++ .error refusal :: later) = .error refusal :=
        Glob.gather_eq_error_iff.2 ⟨paths, later, rfl⟩
      simp only [ofPattern, found_eq, gathered]
    | noMatch wild found_eq => simp only [ofPattern, found_eq, Glob.gather]
  · intro h
    unfold ofPattern at h
    split at h
    · rename_i refused
      cases h
      exact .invalid wild refused
    · rename_i looked
      split at h
      · rename_i gathered
        cases h
        obtain ⟨paths, later, rfl⟩ := Glob.gather_eq_error_iff.1 gathered
        exact .unreadable wild looked
      · rename_i gathered
        cases h
        rw [Glob.gather_eq_ok_iff.1 gathered] at looked
        exact .noMatch wild looked
      · cases h

theorem ofInput_of_wild {input : String} (wild : Wild input) :
    ofInput look input = ofPattern look input := by
  have ne : input ≠ "-" := fun eq => not_wild_hyphen (eq ▸ wild)
  rw [ofInput, if_neg ne, if_pos ((isPattern_iff input).2 wild)]

theorem ofInput_of_plain {input : String} (plain : ¬ Wild input) (ne : input ≠ "-") :
    ofInput look input = .ok [file input] := by
  rw [ofInput, if_neg ne, if_neg (mt (isPattern_iff input).1 plain)]

theorem not_offends_of_plain {before : List String} {input : String} (plain : ¬ Wild input)
    (fresh : input = "-" → "-" ∉ before) (cause : InputError) :
    ¬ Offends look before input cause := by
  rintro (given | ⟨wild, -⟩ | ⟨wild, -⟩ | ⟨wild, -⟩)
  · exact fresh rfl given
  all_goals exact plain wild

/-! ### The walk over the inputs -/

/-- One more input, behind those that were walked over. -/
theorem ofMore_step (look : Glob.Look) (before : List String) (input : String) :
    (∃ cause, Offends look before input cause ∧
        ∀ inputs, ofMore look (before.contains "-") (input :: inputs) = .error cause) ∨
      (∀ cause, ¬ Offends look before input cause) ∧ ∃ part, Expands look input part ∧
        ∀ inputs, ofMore look (before.contains "-") (input :: inputs) =
          (ofMore look ((before ++ [input]).contains "-") inputs).map (part ++ ·) := by
  have walked (fresh : ¬ (before.contains "-" && input == "-") = true) (inputs : List String) :
      ofMore look (before.contains "-") (input :: inputs) =
        ofInput look input >>= fun part =>
          (ofMore look ((before ++ [input]).contains "-") inputs).map (part ++ ·) := by
    rw [ofMore, if_neg fresh]
    have seen : (before ++ [input]).contains "-" = (before.contains "-" || input == "-") := by
      rw [Bool.eq_iff_iff]
      simp [eq_comm (a := "-")]
    rw [seen]
    rfl
  by_cases hyphen : input = "-"
  · subst hyphen
    by_cases given : "-" ∈ before
    · refine .inl ⟨_, .repeated given, fun inputs => ?_⟩
      rw [ofMore, if_pos (by simpa using given)]
    · refine .inr ⟨not_offends_of_plain not_wild_hyphen fun _ => given, _, .standardInput, ?_⟩
      exact walked (by simpa using given)
  · have fresh : ¬ (before.contains "-" && input == "-") = true := by simp [hyphen]
    by_cases wild : Wild input
    · cases h : ofPattern look input with
      | error cause =>
        refine .inl ⟨cause, (offends_iff_of_wild before wild).2 h, fun inputs => ?_⟩
        rw [walked fresh, ofInput_of_wild wild, h]
        rfl
      | ok part =>
        refine .inr ⟨fun cause offends => ?_, part, expands_of_ofPattern wild h, fun inputs => ?_⟩
        · rw [offends_iff_of_wild before wild, h] at offends
          cases offends
        · rw [walked fresh, ofInput_of_wild wild, h]
          rfl
    · refine .inr ⟨not_offends_of_plain wild fun eq => absurd eq hyphen, _,
        .path wild hyphen, fun inputs => ?_⟩
      rw [walked fresh, ofInput_of_plain wild hyphen]
      rfl

theorem clean_nil (before : List String) : Clean look before [] := by
  intro earlier input later eq
  cases earlier <;> cases eq

theorem clean_cons_iff {before inputs : List String} {input : String} :
    Clean look before (input :: inputs) ↔
      (∀ cause, ¬ Offends look before input cause) ∧ Clean look (before ++ [input]) inputs := by
  constructor
  · intro clean
    refine ⟨fun cause offends => ?_, fun earlier other later eq cause offends => ?_⟩
    · exact clean [] input inputs rfl cause (by rwa [List.append_nil])
    · rw [List.append_assoc] at offends
      exact clean (input :: earlier) other later (by rw [eq, List.cons_append]) cause offends
  · rintro ⟨here, behind⟩ earlier other later eq cause offends
    cases earlier with
    | nil =>
      cases eq
      rw [List.append_nil] at offends
      exact here cause offends
    | cons first earlier =>
      cases eq
      refine behind earlier other later rfl cause ?_
      rwa [List.append_assoc]

/-- The sources of the inputs in a row, unless one of them offends: then the first one does. -/
theorem ofMore_outcome (look : Glob.Look) (before inputs : List String) :
    (Clean look before inputs ∧ ∃ parts, List.Forall₂ (Expands look) inputs parts ∧
        ofMore look (before.contains "-") inputs = .ok parts.flatten) ∨
      ∃ earlier input later cause, inputs = earlier ++ input :: later ∧
        Clean look before earlier ∧ Offends look (before ++ earlier) input cause ∧
        ofMore look (before.contains "-") inputs = .error cause := by
  induction inputs generalizing before with
  | nil => exact .inl ⟨clean_nil before, [], .nil, rfl⟩
  | cons input inputs ih =>
    rcases ofMore_step look before input with
      ⟨cause, offends, stopped⟩ | ⟨sound, part, expands, walked⟩
    · refine .inr ⟨[], input, inputs, cause, rfl, clean_nil before, ?_, stopped inputs⟩
      rwa [List.append_nil]
    · rcases ih (before ++ [input]) with
        ⟨clean, parts, expanded, eq⟩ | ⟨earlier, other, later, cause, rfl, clean, offends, eq⟩
      · refine .inl ⟨clean_cons_iff.2 ⟨sound, clean⟩, part :: parts, .cons expands expanded, ?_⟩
        rw [walked, eq]
        rfl
      · refine .inr ⟨input :: earlier, other, later, cause, rfl,
          clean_cons_iff.2 ⟨sound, clean⟩, ?_, ?_⟩
        · rwa [List.append_assoc] at offends
        · rw [walked, eq]
          rfl

/-! ### What a row of sources is like -/

theorem Expands.ne_nil {input : String} {part : List Source} (h : Expands look input part) :
    part ≠ [] := by
  cases h with
  | standardInput => exact List.cons_ne_nil _ _
  | pattern wild found_eq found_ne same sorted =>
    intro eq
    rw [List.map_eq_nil_iff] at eq
    exact found_ne (List.nil_perm.1 (eq ▸ same))
  | path plain ne => exact List.cons_ne_nil _ _

theorem Expands.count {input : String} {part : List Source} (h : Expands look input part) :
    part.count .standardInput = [input].count "-" := by
  cases h with
  | standardInput => rfl
  | pattern wild found_eq found_ne same sorted =>
    have ne : input ≠ "-" := fun eq => not_wild_hyphen (eq ▸ wild)
    rw [List.count_eq_zero.2 (by simp), List.count_eq_zero.2 (by simpa using ne.symm)]
  | path plain ne =>
    rw [List.count_eq_zero.2 (by simp), List.count_eq_zero.2 (by simpa using ne.symm)]

theorem flatten_ne_nil {inputs : List String} {parts : List (List Source)} (ne : inputs ≠ [])
    (h : List.Forall₂ (Expands look) inputs parts) : parts.flatten ≠ [] := by
  cases h with
  | nil => contradiction
  | cons expands rest => simp [expands.ne_nil]

theorem count_flatten {inputs : List String} {parts : List (List Source)}
    (h : List.Forall₂ (Expands look) inputs parts) :
    parts.flatten.count .standardInput = inputs.count "-" := by
  induction h with
  | nil => rfl
  | @cons input part inputs parts expands rest ih =>
    rw [List.flatten_cons, List.count_append, expands.count, ih, ← List.count_append,
      List.singleton_append]

theorem Clean.not_mem {before inputs : List String} (clean : Clean look before inputs)
    (given : "-" ∈ before) : "-" ∉ inputs := by
  intro member
  obtain ⟨earlier, later, eq⟩ := List.append_of_mem member
  exact clean earlier "-" later eq _ (.repeated (List.mem_append_left earlier given))

theorem Clean.count_le {before inputs : List String} (clean : Clean look before inputs) :
    inputs.count "-" ≤ 1 := by
  induction inputs generalizing before with
  | nil => exact Nat.zero_le 1
  | cons input inputs ih =>
    obtain ⟨-, behind⟩ := clean_cons_iff.1 clean
    by_cases hyphen : input = "-"
    · subst hyphen
      have absent := behind.not_mem (List.mem_append_right before (List.mem_singleton_self "-"))
      rw [List.count_cons_self, List.count_eq_zero.2 absent]
    · rw [List.count_cons_of_ne hyphen]
      exact ih behind

/-! ### Inputs part by part -/

theorem ofMore_append (look : Glob.Look) (given : Bool) (xs ys : List String) :
    ofMore look given (xs ++ ys) = ofMore look given xs >>= fun first =>
      (ofMore look (given || xs.contains "-") ys).map (first ++ ·) := by
  induction xs generalizing given with
  | nil =>
    rw [List.nil_append, ofMore, List.contains_nil, Bool.or_false]
    cases ofMore look given ys <;> rfl
  | cons input xs ih =>
    rw [List.cons_append, ofMore, ofMore]
    split
    · rfl
    · have seen : (given || (input :: xs).contains "-") =
          ((given || input == "-") || xs.contains "-") := by
        rw [Bool.eq_iff_iff]
        simp [eq_comm (a := "-"), or_assoc]
      rw [ih, seen]
      cases ofInput look input with
      | error cause => rfl
      | ok part =>
        cases ofMore look (given || input == "-") xs with
        | error cause => rfl
        | ok first =>
          cases ofMore look ((given || input == "-") || xs.contains "-") ys with
          | error cause => rfl
          | ok second => simp [bind, Except.bind, Except.map, pure, Except.pure]

/-- Whether the standard input was given before counts only for the standard input. -/
theorem ofMore_of_not_mem (look : Glob.Look) (given : Bool) {inputs : List String}
    (absent : "-" ∉ inputs) : ofMore look given inputs = ofMore look false inputs := by
  induction inputs generalizing given with
  | nil => rfl
  | cons input inputs ih =>
    rw [List.mem_cons, not_or] at absent
    have other : (input == "-") = false := beq_eq_false_iff_ne.2 (Ne.symm absent.1)
    rw [ofMore, ofMore, other, Bool.and_false, Bool.and_false, ih _ absent.2]
    rfl

theorem ofMore_append_of_count (look : Glob.Look) {xs ys : List String}
    (once : (xs ++ ys).count "-" ≤ 1) :
    ofMore look false (xs ++ ys) = ofMore look false xs >>= fun first =>
      (ofMore look false ys).map (first ++ ·) := by
  have behind : ofMore look (false || xs.contains "-") ys = ofMore look false ys := by
    by_cases given : "-" ∈ xs
    · refine ofMore_of_not_mem look _ fun again => ?_
      rw [List.count_append] at once
      have here := List.count_pos_iff.2 given
      have there := List.count_pos_iff.2 again
      omega
    · have unseen : xs.contains "-" = false := by simpa using given
      rw [unseen, Bool.or_false]
  rw [ofMore_append, behind]

theorem expand_of_ne_nil {inputs : List String} (ne : inputs ≠ []) :
    expand look inputs = ofMore look false inputs := by
  cases inputs with
  | nil => contradiction
  | cons input inputs => rfl

theorem exists_expand_iff (inputs : List String) :
    (∃ sources, expand look inputs = .ok sources) ↔
      ∃ sources, ofMore look false inputs = .ok sources := by
  cases inputs with
  | nil => exact ⟨fun _ => ⟨[], rfl⟩, fun _ => ⟨[inline], rfl⟩⟩
  | cons input inputs => rfl

theorem exists_expand_append_iff {xs ys : List String} (once : (xs ++ ys).count "-" ≤ 1) :
    (∃ sources, expand look (xs ++ ys) = .ok sources) ↔
      (∃ first, expand look xs = .ok first) ∧ ∃ second, expand look ys = .ok second := by
  simp only [exists_expand_iff, ofMore_append_of_count look once]
  cases ofMore look false xs with
  | error cause => simp [bind, Except.bind]
  | ok first =>
    cases ofMore look false ys with
    | error cause => simp [bind, Except.bind, Except.map]
    | ok second => simp [bind, Except.bind, Except.map]

theorem expand_append {xs ys : List String} {first second : List Source}
    (once : (xs ++ ys).count "-" ≤ 1) (xs_ne : xs ≠ []) (ys_ne : ys ≠ [])
    (first_eq : expand look xs = .ok first) (second_eq : expand look ys = .ok second) :
    expand look (xs ++ ys) = .ok (first ++ second) := by
  rw [expand_of_ne_nil xs_ne] at first_eq
  rw [expand_of_ne_nil ys_ne] at second_eq
  rw [expand_of_ne_nil (List.append_ne_nil_of_left_ne_nil xs_ne ys),
    ofMore_append_of_count look once, first_eq, second_eq]
  rfl

/-! ### Patterns found in another order -/

/-- One source, its path spelled in one way or another. -/
inductive SamePath : Source → Source → Prop
  | refl (source : Source) : SamePath source source
  | file {p q : String} (same : Path.ranks p = Path.ranks q) : SamePath (file p) (file q)

theorem ofInput_of_reordered {look' : Glob.Look} (h : Glob.Reordered look look')
    {input : String} {part : List Source} (eq : ofInput look input = .ok part) :
    ∃ part', ofInput look' input = .ok part' ∧ List.Forall₂ SamePath part part' := by
  by_cases wild : Wild input
  · rw [ofInput_of_wild wild] at eq ⊢
    obtain ⟨found, found_eq, found_ne, rfl⟩ := found_of_ofPattern eq
    obtain ⟨answer, answer_eq, perm⟩ := (h input).2 _ found_eq
    obtain ⟨found', rfl⟩ : answer ∈ Set.range (List.map Except.ok) := by
      rw [Set.range_list_map]
      intro result member
      obtain ⟨path, -, rfl⟩ := List.mem_map.1 (perm.mem_iff.2 member)
      exact ⟨path, rfl⟩
    have same : found.Perm found' :=
      (List.map_perm_map_iff fun _ _ => Except.ok.inj).1 perm
    have some : found' ≠ [] := fun none => found_ne (List.perm_nil.1 (none ▸ same))
    refine ⟨_, ofPattern_of_found answer_eq some, ?_⟩
    have keys := map_key_mergeSort_eq Path.precedes_iff same
    rw [← List.forall₂_eq_eq_eq, List.forall₂_map_left_iff, List.forall₂_map_right_iff] at keys
    rw [List.forall₂_map_left_iff, List.forall₂_map_right_iff]
    exact keys.imp fun p q key => .file ((Path.key_eq_iff p q).1 key)
  · have alike : ofInput look' input = ofInput look input := by
      unfold ofInput
      rw [if_neg (mt (isPattern_iff input).1 wild), if_neg (mt (isPattern_iff input).1 wild)]
    refine ⟨part, alike.trans eq, ?_⟩
    exact List.forall₂_same.2 fun source _ => .refl source

theorem ofMore_of_reordered {look' : Glob.Look} (h : Glob.Reordered look look') (given : Bool)
    {inputs : List String} {sources : List Source} (eq : ofMore look given inputs = .ok sources) :
    ∃ sources', ofMore look' given inputs = .ok sources' ∧
      List.Forall₂ SamePath sources sources' := by
  induction inputs generalizing given sources with
  | nil =>
    cases eq
    exact ⟨[], rfl, .nil⟩
  | cons input inputs ih =>
    rw [ofMore] at eq ⊢
    split at eq
    · cases eq
    · rename_i fresh
      rw [if_neg fresh]
      cases first_eq : ofInput look input with
      | error cause =>
        rw [first_eq] at eq
        cases eq
      | ok first =>
        cases rest_eq : ofMore look (given || input == "-") inputs with
        | error cause =>
          rw [first_eq, rest_eq] at eq
          cases eq
        | ok rest =>
          rw [first_eq, rest_eq] at eq
          cases eq
          obtain ⟨first', first'_eq, sameFirst⟩ := ofInput_of_reordered h first_eq
          obtain ⟨rest', rest'_eq, sameRest⟩ := ih _ rest_eq
          refine ⟨first' ++ rest', ?_, List.rel_append sameFirst sameRest⟩
          rw [first'_eq, rest'_eq]
          rfl

theorem expand_of_reordered {look' : Glob.Look} (h : Glob.Reordered look look')
    {inputs : List String} {sources : List Source} (eq : expand look inputs = .ok sources) :
    ∃ sources', expand look' inputs = .ok sources' ∧ List.Forall₂ SamePath sources sources' := by
  cases inputs with
  | nil => exact ⟨sources, eq, List.forall₂_same.2 fun source _ => .refl source⟩
  | cons input inputs => exact ofMore_of_reordered h false eq

/-! ### All inputs -/

/-- **Inputs in order.**  Whatever patterns are looked up in, inputs that do not offend become the
sources that they stand for, one after another: at least one source, and the standard input at most
once.  Otherwise the complaint is that about the first input that offends.  Lists of inputs that
name the standard input once at most can be expanded one by one.  The order in which the paths of a
pattern are found does not matter, and neither does the order of the entries of a tree. -/
theorem expand_outcome (look : Glob.Look) :
    (∀ inputs : List String, inputs ≠ [] →
      (Clean look [] inputs ∧ ∃ parts, List.Forall₂ (Expands look) inputs parts ∧
          expand look inputs = .ok parts.flatten ∧ parts.flatten ≠ [] ∧
          parts.flatten.count .standardInput ≤ 1) ∨
        ∃ earlier input later cause, inputs = earlier ++ input :: later ∧
          Clean look [] earlier ∧ Offends look earlier input cause ∧
          expand look inputs = .error cause) ∧
    (∀ xs ys : List String, (xs ++ ys).count "-" ≤ 1 →
      ((∃ sources, expand look (xs ++ ys) = .ok sources) ↔
        (∃ first, expand look xs = .ok first) ∧ ∃ second, expand look ys = .ok second) ∧
      (xs ≠ [] → ys ≠ [] → ∀ first second,
        expand look xs = .ok first → expand look ys = .ok second →
          expand look (xs ++ ys) = .ok (first ++ second))) ∧
    (∀ look' : Glob.Look, Glob.Reordered look look' → ∀ inputs sources,
      expand look inputs = .ok sources → ∃ sources', expand look' inputs = .ok sources' ∧
        List.Forall₂ SamePath sources sources') ∧
    ∀ files files' : FileTree, files.Relisted files' →
      ∀ inputs, ofInputs files inputs = ofInputs files' inputs := by
  refine ⟨fun inputs ne => ?_, fun xs ys once => ?_, fun look' h inputs sources eq => ?_,
    fun files files' h inputs => ?_⟩
  · rw [expand_of_ne_nil ne]
    rcases ofMore_outcome look [] inputs with
      ⟨clean, parts, expanded, eq⟩ | ⟨earlier, input, later, cause, split, clean, offends, eq⟩
    · refine .inl ⟨clean, parts, expanded, eq, flatten_ne_nil ne expanded, ?_⟩
      rw [count_flatten expanded]
      exact clean.count_le
    · exact .inr ⟨earlier, input, later, cause, split, clean, offends, eq⟩
  · refine ⟨exists_expand_append_iff once, fun xs_ne ys_ne first second first_eq second_eq => ?_⟩
    exact expand_append once xs_ne ys_ne first_eq second_eq
  · exact expand_of_reordered h eq
  · rw [ofInputs, ofInputs, Glob.look_of_relisted h]

theorem expand_outcome_mixed :
    let look : Glob.Look := fun text =>
      if text = "*/*" then .ok [.ok "a-b/c", .ok "a/z"]
      else .ok [.ok "p", .error ⟨"p/q", "Permission denied (os error 13)"⟩]
    let look' : Glob.Look := fun text =>
      if text = "*/*" then .ok [.ok "a/z", .ok "a-b/c"]
      else .ok [.error ⟨"p/q", "Permission denied (os error 13)"⟩, .ok "p"]
    let files : FileTree := ⟨[(⟨false, ["b"]⟩, .file ""), (⟨false, ["a"]⟩, .file "")]⟩
    let files' : FileTree := ⟨[(⟨false, ["a"]⟩, .file ""), (⟨false, ["b"]⟩, .file "")]⟩
    expand look ["-"] = .ok [standardInput] ∧
      expand look ["*/*"] = .ok [file "a/z", file "a-b/c"] ∧
      expand look (["-"] ++ ["*/*"]) = .ok [standardInput, file "a/z", file "a-b/c"] ∧
      (∃ earlier input later cause, ["x", "p/*", "-", "-"] = earlier ++ input :: later ∧
        Clean look [] earlier ∧ Offends look earlier input cause ∧
        expand look ["x", "p/*", "-", "-"] = .error cause) ∧
      (Glob.Reordered look look' ∧ ∃ sources', expand look' ["*/*"] = .ok sources' ∧
        List.Forall₂ SamePath [file "a/z", file "a-b/c"] sources') ∧
      files.Relisted files' ∧ ofInputs files ["*"] = ofInputs files' ["*"] := by
  intro look look' files files'
  obtain ⟨inOrder, apart, reordered, relisted⟩ := expand_outcome look
  have later : Path.precedes "a-b/c" "a/z" = false := by decide +kernel
  have sorted : ["a-b/c", "a/z"].mergeSort Path.precedes = ["a/z", "a-b/c"] := by
    simp [List.mergeSort, later]
  have hyphen : expand look ["-"] = .ok [standardInput] := by rfl
  have pattern : expand look ["*/*"] = .ok [file "a/z", file "a-b/c"] := by
    have found : ofPattern look "*/*" =
        .ok ((["a-b/c", "a/z"].mergeSort Path.precedes).map file) :=
      ofPattern_of_found rfl (by decide)
    rw [sorted] at found
    have wild : Wild "*/*" := (isPattern_iff _).1 (by decide)
    rw [expand_of_ne_nil (by decide), ofMore, ofInput_of_wild wild, found]
    rfl
  have refused : expand look ["x", "p/*", "-", "-"] =
      .error (.unreadablePattern "p/*" ⟨"p/q", "Permission denied (os error 13)"⟩) := by rfl
  have same : Glob.Reordered look look' := by
    intro text
    by_cases h : text = "*/*" <;> simp [look, look', h, List.Perm.swap]
  have listed : files.Relisted files' := ⟨by decide, List.Perm.swap _ _ _⟩
  refine ⟨hyphen, pattern, ?_, ?_, ⟨same, reordered look' same _ _ pattern⟩, listed,
    relisted files files' listed _⟩
  · exact (apart ["-"] ["*/*"] (by decide)).2 (by decide) (by decide) _ _ hyphen pattern
  · rcases inOrder ["x", "p/*", "-", "-"] (by decide) with ⟨-, parts, -, eq, -⟩ | offending
    · rw [refused] at eq
      cases eq
    · exact offending

end Source

end CallToAction
