import FieldMapping.Declaration.Source
import FieldMapping.Proofs.Text.Alike
import Mathlib.Data.List.Nodup

/-! Properties of the fields of one declaration. Fields have different names, and without a
renaming rule so have their properties. A rule may write two names alike, and the table then
has one property twice. For names in their usual form no rule does. -/

namespace FieldMapping

open Text NameCase

theorem nodup_map_iff {α β γ : Type} {f : α → β} {g : α → γ} {l : List α}
    (same : ∀ a ∈ l, ∀ b ∈ l, f a = f b ↔ g a = g b) : (l.map f).Nodup ↔ (l.map g).Nodup := by
  rw [List.Nodup, List.Nodup, List.pairwise_map, List.pairwise_map]
  exact List.Pairwise.iff_of_mem fun ha hb => not_congr (same _ ha _ hb)

def FieldDeclaration.exposed {π : Type} (f : FieldDeclaration π) : String := exposedName f.name

namespace Declaration

theorem keys_table (d : Declaration Path) :
    Assoc.keys d.table = d.mapped.map fun f => f.property d.renameRule? := by
  simp [table, Assoc.keys, Function.comp_def]

theorem nodup_mapped {d : Declaration Path} (apart : (d.fields.map (·.exposed)).Nodup) :
    (d.mapped.map (·.exposed)).Nodup :=
  apart.sublist (List.filter_sublist.map _)

theorem table_distinct_iff_nodup {d : Declaration Path} {c : NameCase} {α : Type}
    {g : FieldDeclaration Path → α} (ruled : d.renameRule? = some c)
    (tells : ∀ f ∈ d.mapped, ∀ f' ∈ d.mapped, c.apply f.exposed = c.apply f'.exposed ↔ g f = g f') :
    Assoc.Distinct d.table ↔ (d.mapped.map g).Nodup := by
  rw [Assoc.Distinct, keys_table, ruled]
  exact nodup_map_iff tells

theorem table_distinct_iff (d : Declaration Path) (apart : (d.fields.map (·.exposed)).Nodup) :
    (d.renameRule? = none → Assoc.Distinct d.table) ∧
    ∀ c, d.renameRule? = some c →
      ((∀ f ∈ d.mapped, c.Separates f.exposed.toList) →
        (Assoc.Distinct d.table ↔
          (d.mapped.map fun f => c.writeWords (words f.exposed.toList)).Nodup)) ∧
      ((∀ f ∈ d.mapped, Plain f.exposed.toList) →
        (Assoc.Distinct d.table ↔ (d.mapped.map fun f => c.trace f.exposed.toList).Nodup)) ∧
      ((∀ f ∈ d.mapped, Usual f.exposed.toList) → Assoc.Distinct d.table) := by
  have names := nodup_mapped apart
  constructor
  · intro unruled
    rw [Assoc.Distinct, keys_table, unruled]
    exact names
  · intro c ruled
    refine ⟨fun separate => ?_, fun plain => ?_, fun usual => ?_⟩
    · exact table_distinct_iff_nodup ruled fun f hf f' hf' =>
        apply_eq_iff_of_separates (separate f hf) (separate f' hf')
    · exact table_distinct_iff_nodup ruled fun f hf f' hf' =>
        apply_eq_iff_of_plain (plain f hf) (plain f' hf')
    · refine (table_distinct_iff_nodup ruled fun f hf f' hf' => ?_).2 names
      rw [apply_eq_iff_of_plain (usual f hf).plain (usual f' hf').plain,
        c.trace_inj (usual f hf) (usual f' hf'), String.toList_inj]

def ruled (name rule : String) (fields : List String) : Declaration Path where
  name := name
  entity := none
  parent := none
  rename := some rule
  generic := false
  form := .named
  fields := fields.map fun field => { name := field }

theorem table_distinct_iff_for_addresses :
    let places := ruled "Place" "kebab-case" ["größe", "straße_nr"]
    let lines := ruled "Address" "snake_case" ["line1", "line_2", "r#type"]
    let people := ruled "Person" "PascalCase" ["first_name", "line1", "line12_b"]
    (places.problems = [] ∧ lines.problems = [] ∧ people.problems = []) ∧
      Assoc.Distinct places.table ∧ Assoc.Distinct lines.table ∧ Assoc.Distinct people.table := by
  intro places lines people
  have apart : ((places.fields.map (·.exposed)).Nodup ∧ (lines.fields.map (·.exposed)).Nodup) ∧
      (people.fields.map (·.exposed)).Nodup := by decide
  obtain ⟨wordwise, -, -⟩ := (table_distinct_iff places apart.1.1).2 .kebab (by decide)
  obtain ⟨-, plainly, -⟩ := (table_distinct_iff lines apart.1.2).2 .snake (by decide)
  obtain ⟨-, -, usually⟩ := (table_distinct_iff people apart.2).2 .pascal (by decide)
  refine ⟨by decide, (wordwise ?_).2 (by decide +kernel), (plainly (by decide)).2 (by decide),
    usually ?_⟩
  · intro f listed
    refine ⟨'-', rfl, ?_⟩
    revert f
    decide +kernel
  · intro f listed
    have parts : ∀ f ∈ people.mapped, (Plain f.exposed.toList ∧
        f.exposed.toList.head?.any Char.isLower = true) ∧ f.exposed.toList.IsChain follows ∧
          f.exposed.toList.getLast? ≠ some '_' := by decide
    obtain ⟨⟨plain, first⟩, chain, last⟩ := parts f listed
    exact ⟨plain, first, chain, last⟩

/-- Lines told apart by an underscore before the digit are exposed alike. -/
theorem lines_exposed_alike :
    let d := ruled "Address" "snake_case" ["line1", "line_1"]
    d.problems = [] ∧ (d.fields.map (·.exposed)).Nodup ∧
      Assoc.keys d.table = ["line_1", "line_1"] ∧ ¬ Assoc.Distinct d.table := by
  decide +kernel

end Declaration

end FieldMapping
