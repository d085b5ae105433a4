import CallToAction.Proofs.Document.Entries
import CallToAction.Proofs.Number.Written
import CallToAction.Proofs.Text.Trimming
import CallToAction.Proofs.Yaml.Nodes

/-!
# What YAML mappings say

A mapping from names of facts to written numbers says that each of these facts has its number,
whether the names are quoted or not.

* `PlainText.of_figures`, `number?_of_figures`: a written number is a scalar and is read as a
  number;
* `Node.members?_nodes`: a mapping without merges has just its entries as members;
* `mappingTells_nodes`: what a mapping says.
-/

namespace CallToAction

/-! ### Characters -/

theorem isBlank_of_isFigure {c : Char} (h : isFigure c = true) : isBlank c = false := by
  simp only [isFigure, Bool.or_eq_true, beq_iff_eq] at h
  rcases h with (((h | rfl) | rfl) | rfl) | rfl
  · simp only [Char.isDigit, Bool.and_eq_true, decide_eq_true_eq, UInt32.le_iff_toNat_le,
      ge_iff_le] at h
    have low : 48 ≤ c.toNat := h.1
    have high : c.toNat ≤ 57 := h.2
    simp [isBlank]
    omega
  all_goals rfl

theorem mapM_eq_some {α β : Type} {l : List α} {f : α → Option β} {g : α → β}
    (h : ∀ a ∈ l, f a = some (g a)) : l.mapM f = some (l.map g) := by
  induction l with
  | nil => rfl
  | cons a l ih =>
    rw [List.mapM_cons, h a List.mem_cons_self, ih fun b hb => h b (List.mem_cons_of_mem _ hb)]
    rfl

namespace Yaml

/-! ### Numbers -/

theorem isPlainChar_of_isFigure {c : Char} (h : isFigure c = true) : isPlainChar c = true := by
  simp only [isFigure, Bool.or_eq_true, beq_iff_eq] at h
  rcases h with (((h | rfl) | rfl) | rfl) | rfl
  · exact isPlainChar_of_isAlphanum (by simp [Char.isAlphanum, h])
  all_goals rfl

variable {cs : List Char}

/-- A written number needs no quotes. -/
theorem PlainText.of_figures (h : Figures cs) : PlainText cs := by
  refine ⟨fun c hc => isPlainChar_of_isFigure (h.isFigure c hc), ?_⟩
  obtain ⟨sign, _, rfl, signed, d, rest, rfl, digit, -⟩ := h
  exact ⟨sign, d, rest, rfl, signed, by simp [Char.isAlphanum, digit]⟩

theorem lower_ne {c : Char} {rest : List Char} {word : String} (small : c.toLower = c)
    (other : word.toList.head? ≠ some c) : lower (.ofList (c :: rest)) ≠ word := by
  rintro rfl
  exact other (by simp [lower, small])

/-- A written number is no word for the absence of a value. -/
theorem isUnset_of_figures (h : Figures cs) :
    (Node.scalar none .plain (.ofList cs)).isUnset = false := by
  obtain ⟨c, rest, rfl, small, letter, tilde⟩ : ∃ c rest, cs = c :: rest ∧ c.toLower = c ∧
      c ≠ 'n' ∧ c ≠ '~' := by
    obtain ⟨_, _, rfl, rfl | rfl, d, rest, rfl, digit, -⟩ := h
    · exact ⟨d, rest, rfl, toLower_of_isDigit digit, ne_of_isDigit digit rfl,
        ne_of_isDigit digit rfl⟩
    · exact ⟨'-', d :: rest, rfl, rfl, by decide, by decide⟩
  have null : lower (.ofList (c :: rest)) ≠ "null" := lower_ne small (by simpa using letter.symm)
  have text : (String.ofList (c :: rest)).toList = c :: rest := String.toList_ofList
  generalize String.ofList (c :: rest) = s at null text
  have some : s ≠ "" := by
    rintro rfl
    cases text
  have sign : s ≠ "~" := by
    rintro rfl
    exact tilde (List.cons.inj text).1.symm
  simp [Node.isUnset, Node.isNull, null, some, sign]

/-- A written number is no special one. -/
theorem specialNumber?_of_figures (h : Figures cs) : specialNumber? (.ofList cs) = none := by
  obtain ⟨sign, _, rfl, signed, d, rest, rfl, digit, -⟩ := h
  have unsigned : (Literal.sign (sign ++ d :: rest)).2 = d :: rest := by
    rcases signed with rfl | rfl
    · unfold Literal.sign
      split
      · next same => exact absurd (List.cons.inj same).1 (ne_of_isDigit digit rfl)
      · next same => exact absurd (List.cons.inj same).1 (ne_of_isDigit digit rfl)
      · rfl
    · rfl
  have other {word : String} (point : word.toList.head? = some '.') :
      lower (.ofList (d :: rest)) ≠ word :=
    lower_ne (toLower_of_isDigit digit) (by simpa [point] using (ne_of_isDigit digit rfl).symm)
  rw [specialNumber?, String.toList_ofList]
  dsimp only
  rw [unsigned, if_neg (other rfl), if_neg (other rfl)]

theorem number?_of_figures {v : Float} (h : Figures cs)
    (read : Number.read (.ofList cs) = .ok v) : number? (.ofList cs) = some v := by
  have ink : ∀ c ∈ cs, CallToAction.isBlank c = false := fun c hc =>
    isBlank_of_isFigure (h.isFigure c hc)
  rw [number?, Text.trim_eq_self ink, specialNumber?_of_figures h, read]
  rfl

/-! ### Members -/

namespace Node

variable {key : Style}

theorem isMerge_nodes {w : Written} (plain : PlainText w.key) :
    (w.nodes key).1.isMerge = false := by
  unfold isMerge
  split
  · next same =>
    obtain ⟨-, -, name⟩ := Node.scalar.inj same
    have key : w.key = ['<', '<'] := by simpa using congrArg String.toList name
    have first : isPlainChar '<' = true := plain.1 '<' (by simp [key])
    cases first
  · rfl

theorem own?_nodes {ws : List Written} (plain : ∀ w ∈ ws, PlainText w.key) :
    own? (ws.map (·.nodes key)) = some (ws.map fun w => (.ofList w.key, (w.nodes key).2)) := by
  rw [own?, List.filter_eq_self.2, List.mapM_map]
  · exact mapM_eq_some fun _ _ => rfl
  · -- no entry is a merge
    rintro _ h
    obtain ⟨w, hw, rfl⟩ := List.mem_map.1 h
    simp [isMerge_nodes (plain w hw)]

theorem inherited?_nodes {ws : List Written} (plain : ∀ w ∈ ws, PlainText w.key) :
    inherited? (ws.map (·.nodes key)) = some [] := by
  induction ws with
  | nil => rfl
  | cons w ws ih =>
    rw [List.map_cons, inherited?, isMerge_nodes (plain w List.mem_cons_self),
      ih fun v hv => plain v (List.mem_cons_of_mem _ hv)]
    rfl

/-- A mapping without merges has just its entries as members. -/
theorem members?_nodes {ws : List Written} (plain : ∀ w ∈ ws, PlainText w.key)
    (distinct : (ws.map fun w => String.ofList w.key).Nodup) :
    members? (ws.map (·.nodes key)) = some (ws.map fun w => (.ofList w.key, (w.nodes key).2)) := by
  rw [members?, own?_nodes plain, inherited?_nodes plain]
  have names : ((ws.map fun w => (String.ofList w.key, (w.nodes key).2)).map Prod.fst).Nodup := by
    rw [List.map_map]
    exact distinct
  exact if_pos names

end Node

end Yaml

/-! ### Facts -/

open Yaml

namespace Document

/-- An entry of a mapping says that a fact has a value. -/
structure Says (w : Written) (entry : Fact × Float) : Prop where
  key : w.key = entry.1.name.toList
  value : Figures w.value
  read : Number.read (.ofList w.value) = .ok entry.2

/-- The name of a fact needs no quotes. -/
theorem plainText_name (fact : Fact) : PlainText fact.name.toList := by
  cases fact
  all_goals exact ⟨List.all_eq_true.1 (by decide), [], _, _, rfl, .inl rfl, by decide⟩

/-- The name of a fact is short enough to be a key. -/
theorem length_name_le (fact : Fact) : fact.name.toList.length ≤ 1024 := by
  cases fact <;> decide

variable {w : Written} {entry : Fact × Float}

theorem Says.plain (h : Says w entry) : w.Plain where
  key := h.key ▸ plainText_name entry.1
  short := h.key ▸ length_name_le entry.1
  value := .of_figures h.value

theorem Says.name (h : Says w entry) : String.ofList w.key = entry.1.name := by
  rw [h.key, String.ofList_toList]

theorem Says.entry_eq (h : Says w entry) (key : Style) :
    FactSheet.entry? (.ofList w.key) (w.nodes key).2 = some (entry.1, some entry.2) := by
  have number : (w.nodes key).2.optional? Yaml.number? = some (some entry.2) := by
    rw [Node.optional?, Written.nodes, isUnset_of_figures h.value, if_neg Bool.false_ne_true]
    change Option.map some (Yaml.number? (.ofList w.value)) = _
    rw [number?_of_figures h.value h.read]
    rfl
  rw [FactSheet.entry?, h.name, Fact.named?_name, number]
  rfl

variable {es : List (Fact × Float)} {form : Fact × Float → Written}

/-- A mapping says what its entries say. -/
theorem mappingTells_nodes (told : ∀ entry ∈ es, Says (form entry) entry)
    (distinct : (es.map Prod.fst).Nodup) (key : Style) :
    MappingTells ((es.map form).map (·.nodes key)) (es.map fun (fact, v) => (fact, some v)) := by
  have plain : ∀ w ∈ es.map form, PlainText w.key := by
    intro w hw
    obtain ⟨entry, he, rfl⟩ := List.mem_map.1 hw
    exact (told entry he).plain.key
  have names : (es.map form).map (fun w => String.ofList w.key)
      = (es.map Prod.fst).map Fact.name := by
    rw [List.map_map, List.map_map]
    exact List.map_congr_left fun entry he => (told entry he).name
  refine ⟨_, Node.members?_nodes plain ?_, ?_, ?_⟩
  · rw [names]
    exact distinct.map fun _ _ => Fact.name_injective
  · rw [List.mapM_map, List.mapM_map]
    exact mapM_eq_some fun entry he => (told entry he).entry_eq key
  · rw [List.map_map]
    exact distinct

end Document

end CallToAction
