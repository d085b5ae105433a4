import CallToAction.Proofs.Document.Entries
import CallToAction.Settings.Document

/-!
# The defaults of settings

The facts below those of every page stand in a section of their own in a document of settings.  The
section may be left out, be null, or have nulls for some facts; each time nothing is said.

* `Settings.foldlM_defaults`: the section decides, wherever it stands among the members;
* `Settings.Tells`: what a document of settings says about facts;
* `Settings.exists_tells`: reading settings finds what their document says.
-/

namespace CallToAction.Settings

open Document (Entry MappingTells)

/-- Read a member of a document of settings. -/
def member? (s : Settings) (member : String × Yaml.Node) : Option Settings :=
  match member.1 with
  | "output" => do pure { s with output := ← output? member.2 }
  | "defaults" => do pure { s with defaults := ← defaults? member.2 }
  | _ => none

theorem ofMapping?_eq_some_iff (members : List (String × Yaml.Node)) (s : Settings) :
    ofMapping? members = some s ↔
      (members.map Prod.fst).Nodup ∧ members.foldlM member? unset = some s := by
  have read : ofMapping? members =
      guard (members.map Prod.fst).Nodup >>= fun _ => members.foldlM member? unset := rfl
  rw [read]
  simp [Option.bind_eq_some_iff, Option.guard_eq_some']

/-- A member of another name leaves the defaults alone. -/
theorem defaults_of_member?_of_ne {s s' : Settings} {name : String} {node : Yaml.Node}
    (h : member? s (name, node) = some s') (other : name ≠ "defaults") :
    s'.defaults = s.defaults := by
  unfold member? at h
  split at h
  · obtain ⟨output, -, h⟩ := Option.bind_eq_some_iff.1 h
    cases h
    rfl
  · next same => exact absurd same other
  · cases h

theorem defaults_of_member? {s s' : Settings} {node : Yaml.Node}
    (h : member? s ("defaults", node) = some s') : defaults? node = some s'.defaults := by
  obtain ⟨below, given, h⟩ := Option.bind_eq_some_iff.1 h
  cases h
  exact given

/-- The defaults are those of the section with their name, or those that there were before. -/
theorem foldlM_defaults {members : List (String × Yaml.Node)} {s s' : Settings}
    (distinct : (members.map Prod.fst).Nodup) (h : members.foldlM member? s = some s') :
    (members.lookup "defaults").elim (some s.defaults) defaults? = some s'.defaults := by
  induction members generalizing s with
  | nil =>
    cases h
    rfl
  | cons member members ih =>
    obtain ⟨name, node⟩ := member
    rw [List.foldlM_cons] at h
    obtain ⟨next, first, rest⟩ := Option.bind_eq_some_iff.1 h
    obtain ⟨fresh, distinct⟩ := List.nodup_cons.1 distinct
    have later := ih distinct rest
    by_cases here : name = "defaults"
    · subst here
      have none : members.lookup "defaults" = none :=
        List.lookup_eq_none_iff.2 fun other ho => by
          rw [bne_iff_ne]
          intro same
          exact fresh (List.mem_map.2 ⟨other, ho, same.symm⟩)
      rw [none] at later
      rw [List.lookup_cons_self, ← later]
      exact defaults_of_member? first
    · rw [List.lookup_cons, beq_eq_false_iff_ne.2 (Ne.symm here),
        ← defaults_of_member?_of_ne first here]
      exact later

/-! ### What a document of settings says -/

/-- A section of defaults says this about facts. -/
inductive SectionTells : Yaml.Node → List Entry → Prop
  | mapping {pairs : List (Yaml.Node × Yaml.Node)} {es : List Entry}
      (given : MappingTells pairs es) : SectionTells (.mapping pairs) es
  | null {node : Yaml.Node} (unset : node.isUnset = true) : SectionTells node []

/-- A document of settings says this about the facts below those of every page. -/
inductive Tells (text : String) : List Entry → Prop
  | blank (empty : Text.allBlank text = true) : Tells text []
  | null {node : Yaml.Node} (written : Text.allBlank text = false)
      (root : Yaml.read? text = some node) (nothing : node.isNull = true) : Tells text []
  | omitted {pairs : List (Yaml.Node × Yaml.Node)} {members : List (String × Yaml.Node)}
      (written : Text.allBlank text = false) (root : Yaml.read? text = some (.mapping pairs))
      (whole : Yaml.Node.members? pairs = some members)
      (none : members.lookup "defaults" = none) : Tells text []
  | given {pairs : List (Yaml.Node × Yaml.Node)} {members : List (String × Yaml.Node)}
      {node : Yaml.Node} {es : List Entry} (written : Text.allBlank text = false)
      (root : Yaml.read? text = some (.mapping pairs))
      (whole : Yaml.Node.members? pairs = some members)
      (named : members.lookup "defaults" = some node) (told : SectionTells node es) :
      Tells text es

/-- The value that settings have for a fact below those of every page. -/
def below (s : Settings) (key : Fact) : Option Float := s.defaults.bind (·.get key)

theorem below_of_unset {s : Settings} (h : s.defaults = none) (key : Fact) :
    s.below key = Document.number? [] key := by
  rw [below, h]
  rfl

theorem exists_sectionTells {node : Yaml.Node} {s : Settings}
    (h : defaults? node = some s.defaults) :
    ∃ es, SectionTells node es ∧ (es.map Prod.fst).Nodup ∧
      ∀ key, s.below key = Document.number? es key := by
  unfold defaults? at h
  split at h
  · next pairs =>
    obtain ⟨sheet, read, kept⟩ := Option.map_eq_some_iff.1 h
    obtain ⟨es, given, rfl⟩ := (FactSheet.ofNode?_eq_some_iff pairs sheet).1 read
    refine ⟨es, .mapping given, given.nodup, fun key => ?_⟩
    rw [below, ← kept]
    exact FactSheet.get_ofEntries given.nodup key
  · split_ifs at h with unset
    exact ⟨[], .null unset, List.nodup_nil, below_of_unset (Option.some.inj h).symm⟩

/-- Reading settings finds what their document says. -/
theorem exists_tells {text : String} {s : Settings} (h : ofYaml? text = some s) :
    ∃ es, Tells text es ∧ (es.map Prod.fst).Nodup ∧
      ∀ key, s.below key = Document.number? es key := by
  unfold ofYaml? at h
  split_ifs at h with written
  · cases h
    exact ⟨[], .blank written, List.nodup_nil, below_of_unset rfl⟩
  · rw [Bool.not_eq_true] at written
    obtain ⟨node, root, h⟩ := Option.bind_eq_some_iff.1 h
    unfold ofNode? at h
    split at h
    · obtain ⟨members, whole, h⟩ := Option.bind_eq_some_iff.1 h
      obtain ⟨distinct, h⟩ := (ofMapping?_eq_some_iff _ _).1 h
      have decided := foldlM_defaults distinct h
      cases named : members.lookup "defaults" with
      | none =>
        rw [named] at decided
        exact ⟨[], .omitted written root whole named, List.nodup_nil,
          below_of_unset (Option.some.inj decided).symm⟩
      | some node =>
        rw [named] at decided
        obtain ⟨es, told, distinct, same⟩ := exists_sectionTells decided
        exact ⟨es, .given written root whole named told, distinct, same⟩
    · split_ifs at h with nothing
      cases h
      exact ⟨[], .null written root nothing, List.nodup_nil, below_of_unset rfl⟩

end CallToAction.Settings
