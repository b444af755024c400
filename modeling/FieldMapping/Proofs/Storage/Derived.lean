import FieldMapping.Proofs.Field.Settings
import FieldMapping.Proofs.Listing.Advertised

/-! Derived fields in queries. Columns to select go by the origin of a field, which tells
that it is computed; keys, filters and sorting go by its target and refuse it if that is
extended. Descriptions give every derived field an extended target. Settings leave the two
apart, and a derived field finished with a plain column is passed on to storage. -/

namespace FieldMapping

/-- Whatever else is on the list, it fails if the name is. -/
def Refuses {α β ε : Type} (run : List α → Except ε β) (key : α → String) (name : String) : Prop :=
  ∀ as, name ∈ as.map key → ∃ e, run as = .error e

theorem refuses_iff {α β ε : Type} {run : List α → Except ε β} {key : α → String}
    {good : String → Prop} (passes : ∀ as, (∃ b, run as = .ok b) ↔ ∀ a ∈ as, good (key a))
    (a : α) : Refuses run key (key a) ↔ ¬ good (key a) := by
  constructor
  · intro refuses holds
    have passed : ∃ b, run [a] = .ok b := (passes [a]).2 (by simpa using holds)
    exact fails_iff.1 (refuses [a] (by simp)) passed
  · intro bad as named
    rw [fails_iff, passes]
    intro all
    obtain ⟨b, hb, same⟩ := List.mem_map.1 named
    exact bad (same ▸ all b hb)

namespace Layout
variable {ρ : Type} {l : Layout ρ} {name property : String} {field : Field ρ}

def Renames (l : Layout ρ) (name : String) : Prop :=
  ∀ property field, l.lookup name = some (property, field) → field.target.isExtended = false

theorem renames_iff (found : l.lookup name = some (property, field)) :
    l.Renames name ↔ field.target.isExtended = false := by
  constructor
  · intro renames
    exact renames property field found
  · intro plain _ _ other
    cases found.symm.trans other
    exact plain

theorem admits_iff_of_lookup (found : l.lookup name = some (property, field)) :
    l.Admits name ↔ field.unfilterable = false ∧ field.origin.isVirtual = false ∧
      field.target.isExtended = false :=
  exists_meant_iff found fun field => field.unfilterable = false ∧
    field.origin.isVirtual = false ∧ field.target.isExtended = false

theorem storageKey_passes_iff {key : String} :
    (∃ k, l.storageKey key = .ok k) ↔ l.Renames key := by
  cases found : l.lookup key with
  | none => simp [storageKey, Renames, found]
  | some p =>
    rw [renames_iff found]
    cases ht : p.2.target <;>
      simp [storageKey, found, columnOf, Target.column?, Target.isExtended, ht]

theorem renameKeys_passes_iff {input : Record} :
    (∃ output, l.renameKeys input = .ok output) ↔ ∀ p ∈ input, l.Renames p.1 := by
  simp only [renameKeys, map_passes_iff, traverse_passes_iff, storageKey_passes_iff]

theorem storageFilter_passes_iff {columns : List (String × Filter.Column)} :
    (∃ s, l.storageFilter ⟨columns⟩ = .ok s) ↔ ∀ c ∈ columns, l.Admits c.1 :=
  (l.agree_checkFilter ⟨columns⟩).pass_iff.symm.trans checkFilter_passes_iff

theorem storageSorting_passes_iff {keys : List SortKey} :
    (∃ orders, l.storageSorting keys = .ok orders) ↔ ∀ s ∈ keys, l.Orders s.column := by
  rw [← (l.agree_checkSorting keys).pass_iff, checkSorting_passes_iff]

theorem refuses_key_iff (found : l.lookup name = some (property, field)) :
    Refuses l.renameKeys Prod.fst name ↔ field.target.isExtended = true := by
  rw [refuses_iff (fun _ => renameKeys_passes_iff) (name, Value.null), renames_iff found]
  simp

theorem refuses_filter_iff (found : l.lookup name = some (property, field))
    (real : field.origin.isVirtual = false) :
    Refuses (fun columns => l.storageFilter ⟨columns⟩) Prod.fst name ↔
      field.target.isExtended = true ∨ field.unfilterable = true := by
  rw [refuses_iff (fun _ => storageFilter_passes_iff)
    (name, Filter.Column.single ⟨.text, .blank, .none⟩), admits_iff_of_lookup found, real]
  cases field.target.isExtended <;> simp

theorem refuses_sorting_iff (found : l.lookup name = some (property, field))
    (real : field.origin.isVirtual = false) :
    Refuses l.storageSorting SortKey.column name ↔ field.target.isExtended = true := by
  rw [refuses_iff (fun _ => storageSorting_passes_iff) (SortKey.mk name .ascending),
    orders_iff found, Field.isStored, real]
  simp

/-- A derived field is refused in queries exactly when its target is extended. That of a
described one always is, and that of one put together from settings if the last target
among them is. -/
theorem derived_refused_iff :
    (∀ (v : Value) (f : Field ρ), Field.ofValue v = .ok f →
      f.origin.isDerived = true → f.target.isExtended = true) ∧
    (∀ (settings : List (Setting ρ)) (f : Field ρ), (Draft.ofSettings settings).finish = .ok f →
      f.origin.isDerived = true → (f.target.isExtended = true ↔
        ∃ t, lastSetting Setting.target? settings = some t ∧ t.isExtended = true)) ∧
    ∀ (l : Layout ρ) (name property : String) (field : Field ρ),
      l.lookup name = some (property, field) → field.origin.isDerived = true →
      (Refuses l.renameKeys Prod.fst name ↔ field.target.isExtended = true) ∧
      (Refuses (fun columns => l.storageFilter ⟨columns⟩) Prod.fst name ↔
        field.target.isExtended = true ∨ field.unfilterable = true) ∧
      (Refuses l.storageSorting SortKey.column name ↔ field.target.isExtended = true) := by
  refine ⟨fun v f ok => (Field.derived_iff_of_ofValue ok).1, fun settings f ok _ => ?_, ?_⟩
  · rw [(Draft.last_of_finish ok).1]
    simp
  · intro l name property field found derived
    have real := Origin.isVirtual_of_isDerived derived
    exact ⟨refuses_key_iff found, refuses_filter_iff found real, refuses_sorting_iff found real⟩

open Directory in
theorem derived_refused_iff_for_full_names :
    let described : Value := .object [("destinationName", .string "full_name"),
      ("mode", .string "derived"), ("expression", .string "CONCAT(first_name, ' ', last_name)")]
    let f : Field StockRule := .derived "full_name" "CONCAT(first_name, ' ', last_name)"
    let settings := [.target (.column "name"), .origin f.origin, .target f.target]
    let l : Layout StockRule := .ofFields "Person" Person.fields
    Field.ofValue described = .ok f ∧ (Draft.ofSettings settings).finish = .ok f ∧
    l.lookup "fullName" = some ("fullName", f) ∧ f.target.isExtended = true ∧
    (∃ t, lastSetting Setting.target? settings = some t ∧ t.isExtended = true) ∧
    Refuses l.renameKeys Prod.fst "fullName" ∧
    Refuses (fun columns => l.storageFilter ⟨columns⟩) Prod.fst "fullName" ∧
    Refuses l.storageSorting SortKey.column "fullName" := by
  intro described f settings l
  obtain ⟨ofValue, ofSettings, refused⟩ := derived_refused_iff (ρ := StockRule)
  have read : Field.ofValue described = .ok f := Field.ofValue_eq_ok_iff.2 ⟨rfl, _, rfl, rfl⟩
  have finished : (Draft.ofSettings settings).finish = .ok f := rfl
  have found : l.lookup "fullName" = some ("fullName", f) := by decide
  have extended := ofValue described f read rfl
  obtain ⟨keys, filters, sorting⟩ := refused l _ _ _ found rfl
  exact ⟨read, finished, found, extended, (ofSettings settings f finished rfl).1 extended,
    keys.2 extended, filters.2 (.inl extended), sorting.2 extended⟩

open Directory in
/-- A full name put together with a plain column is never selected, as it is computed,
but keys and sorting go to that column. -/
theorem derived_in_plain_column :
    let f : Field StockRule :=
      { Field.column "full_name" with origin := .derived "CONCAT(first_name, ' ', last_name)" }
    let l : Layout StockRule := .ofFields "Person" [("fullName", f)]
    (Draft.ofSettings [.target (.column "full_name"), .origin f.origin]).finish = .ok f ∧
    f.origin.isDerived = true ∧ f.target.isExtended = false ∧
    l.selectColumns ["fullName"] = [] ∧
    l.derived = [("fullName", "CONCAT(first_name, ' ', last_name)")] ∧
    l.renameKeys [("fullName", .null)] = .ok [("full_name", .null)] ∧
    l.storageSorting [⟨"fullName", .ascending⟩] = .ok [⟨"full_name", .ascending⟩] :=
  ⟨rfl, rfl, rfl, by decide, rfl, rfl, rfl⟩

end Layout

end FieldMapping
