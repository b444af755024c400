import FieldMapping.Proofs.Storage.Derived
import Mathlib.Data.List.Nodup
import Mathlib.Data.List.Perm.Subperm

/-! Records under storage names. A renamed record has one key for each storage name that
comes up, and of the values that meet under it the last. So values are lost exactly if two
keys of the record mean one column, or one of them means the column that the other, which
means no field, is called by. -/

namespace FieldMapping

namespace Layout
variable {ρ : Type} {l : Layout ρ}

def storageName (l : Layout ρ) (key : String) : String :=
  match l.lookup key with
  | some (_, field) => field.target.name
  | none => key

def MeansColumn (l : Layout ρ) (key column : String) : Prop :=
  ∃ property field, l.lookup key = some (property, field) ∧ field.target.name = column

inductive Meet (l : Layout ρ) (k k' : String) : Prop
  | fields {column : String} (apart : k ≠ k') (first : l.MeansColumn k column)
      (second : l.MeansColumn k' column)
  | fieldFirst (first : l.MeansColumn k k') (second : l.lookup k' = none)
  | fieldSecond (first : l.lookup k = none) (second : l.MeansColumn k' k)

theorem meet_iff {k k' : String} :
    l.Meet k k' ↔ k ≠ k' ∧ l.storageName k = l.storageName k' := by
  constructor
  · rintro (⟨apart, ⟨_, _, first, rfl⟩, _, _, second, same⟩ | ⟨⟨_, _, first, same⟩, second⟩ |
      ⟨first, _, _, second, same⟩)
    · exact ⟨apart, by simp [storageName, first, second, same]⟩
    · refine ⟨?_, by simp [storageName, first, second, same]⟩
      rintro rfl
      cases first.symm.trans second
    · refine ⟨?_, by simp [storageName, first, second, same]⟩
      rintro rfl
      cases first.symm.trans second
  · rintro ⟨apart, same⟩
    unfold storageName at same
    cases first : l.lookup k with
    | some p =>
      cases second : l.lookup k' with
      | some p' =>
        simp only [first, second] at same
        exact .fields apart ⟨_, _, first, rfl⟩ ⟨_, _, second, same.symm⟩
      | none =>
        simp only [first, second] at same
        exact .fieldFirst ⟨_, _, first, same⟩ second
    | none =>
      cases second : l.lookup k' with
      | some p' =>
        simp only [first, second] at same
        exact .fieldSecond first ⟨_, _, second, same.symm⟩
      | none =>
        simp only [first, second] at same
        exact absurd same apart

theorem storageName_of_storageKey {key name : String} (read : l.storageKey key = .ok name) :
    name = l.storageName key := by
  unfold storageKey at read
  unfold storageName
  cases found : l.lookup key with
  | none =>
    simp only [found, Except.ok.injEq] at read
    exact read.symm
  | some p => cases target : p.2.target <;> simp_all [columnOf, Target.column?, Target.name]

/-- The pairs of a record under storage names, of which some may have one name. -/
def renamedPairs (l : Layout ρ) (input : Record) : List (String × Value) :=
  input.map fun p => (l.storageName p.1, p.2)

@[simp] theorem keys_renamedPairs (input : Record) :
    Assoc.keys (l.renamedPairs input) = input.keys.map l.storageName := by
  simp [renamedPairs, Assoc.keys, Function.comp_def]

theorem renameKeys_eq {input output : Record} (renamed : l.renameKeys input = .ok output) :
    output = Assoc.putAll [] (l.renamedPairs input) := by
  obtain ⟨pairs, each, rfl⟩ := map_eq_ok_iff.1 renamed
  have same : pairs.map id = l.renamedPairs input := by
    refine map_of_traverse (fun p q step => ?_) each
    obtain ⟨name, named, rfl⟩ := map_eq_ok_iff.1 step
    rw [id, storageName_of_storageKey named]
  rw [← same, List.map_id]
  rfl

theorem keys_renameKeys {input output : Record} (renamed : l.renameKeys input = .ok output) :
    output.keys = (input.keys.map l.storageName).eraseDups := by
  rw [renameKeys_eq renamed, Assoc.keys_putAll]
  simp

theorem get?_renameKeys {input output : Record} (renamed : l.renameKeys input = .ok output)
    (name : String) : output.get? name = Assoc.get? (l.renamedPairs input).reverse name := by
  rw [renameKeys_eq renamed, Assoc.get?_putAll, Assoc.get?_nil, Option.or_none]

structure Keeps (l : Layout ρ) (input output : Record) : Prop where
  length : output.length = input.length
  values : ∀ p ∈ input, output.get? (l.storageName p.1) = some p.2

theorem keeps_iff_nodup {input output : Record} (renamed : l.renameKeys input = .ok output) :
    l.Keeps input output ↔ (input.keys.map l.storageName).Nodup := by
  have keys := keys_renameKeys renamed
  constructor
  · intro keeps
    have distinct : output.keys.Nodup := by
      rw [renameKeys_eq renamed]
      exact Assoc.distinct_ofPairs _
    have known : output.keys ⊆ input.keys.map l.storageName := by
      intro name here
      rwa [keys, List.mem_eraseDups] at here
    have length : (input.keys.map l.storageName).length ≤ output.keys.length := by
      simp [Assoc.keys, keeps.length]
    exact ((distinct.subperm known).perm_of_length_le length).nodup_iff.1 distinct
  · intro distinct
    rw [Assoc.eraseDups_of_nodup distinct] at keys
    refine ⟨by simpa [Assoc.keys] using congrArg List.length keys, fun p hp => ?_⟩
    have pairs : Assoc.Distinct (l.renamedPairs input) := by
      rwa [Assoc.Distinct, keys_renamedPairs]
    rw [renameKeys_eq renamed]
    exact Assoc.get?_putAll_of_mem pairs (List.mem_map_of_mem hp) []

/-- Of the values that meet under one storage name the last is kept, and all are exactly
if no two keys meet. -/
theorem renameKeys_keeps_iff {input output : Record} (distinct : input.Distinct)
    (renamed : l.renameKeys input = .ok output) :
    output.keys = (input.keys.map l.storageName).eraseDups ∧
      (∀ name, output.get? name = Assoc.get? (l.renamedPairs input).reverse name) ∧
      (l.Keeps input output ↔ ∀ k ∈ input.keys, ∀ k' ∈ input.keys, ¬ l.Meet k k') := by
  refine ⟨keys_renameKeys renamed, get?_renameKeys renamed, ?_⟩
  rw [keeps_iff_nodup renamed, List.nodup_map_iff_inj_on distinct]
  simp only [meet_iff, not_and', ne_eq, Classical.not_not]

open Directory in
theorem renameKeys_keeps_iff_for_surname :
    let l : Layout StockRule := .ofFields "Person" Person.fields
    let input : Record := [("surname", .string "Lee"), ("nick", .null), ("team", .bool true)]
    let output : Record := [("last_name", .string "Lee"), ("nick", .null), ("team_id", .bool true)]
    input.Distinct ∧ l.renameKeys input = .ok output ∧ l.Keeps input output ∧
      ∀ k ∈ input.keys, ∀ k' ∈ input.keys, ¬ l.Meet k k' := by
  intro l input output
  have distinct : input.Distinct := by decide
  have renamed : l.renameKeys input = .ok output := rfl
  obtain ⟨-, -, keeps⟩ := renameKeys_keeps_iff distinct renamed
  have kept : l.Keeps input output := by
    refine ⟨rfl, ?_⟩
    simp only [input, List.forall_mem_cons]
    exact ⟨rfl, rfl, rfl, nofun⟩
  exact ⟨distinct, renamed, kept, keeps.1 kept⟩

open Directory in
/-- A key that means no field is passed on, and what stood there is gone: `firstName` is
kept under the same name in storage. -/
theorem renameKeys_overwrites :
    let l : Layout StockRule := .ofFields "Person" Person.fields
    let input : Record := [("first_name", .string "Ann"), ("firstName", .string "Bea")]
    let output : Record := [("first_name", .string "Bea")]
    input.Distinct ∧ l.renameKeys input = .ok output ∧
      l.storageName "first_name" = "first_name" ∧ l.storageName "firstName" = "first_name" ∧
      ¬ l.Keeps input output :=
  ⟨by decide, rfl, rfl, rfl, fun keeps => absurd keeps.length (by decide)⟩

end Layout

end FieldMapping
