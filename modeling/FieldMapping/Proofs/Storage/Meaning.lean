import FieldMapping.Directory.People
import FieldMapping.Storage.Query

/-! The storage filter of a request asks for what the request asks for. A column is
stored or symbolic by the field that it means; the conditions on stored columns
all stand in the predicate, in order and once each, and the symbolic columns stand
beside it. A column that no filter may touch makes the whole fail. -/

namespace FieldMapping

def Filter.Column.holdsOn (holds : Predicate.Atom → Bool) (field : String) : Filter.Column → Bool
  | .single c => holds ⟨field, c.test, c.operand⟩
  | .joined .and cs => cs.all fun c => holds ⟨field, c.test, c.operand⟩
  | .joined .or cs => cs.any fun c => holds ⟨field, c.test, c.operand⟩

theorem Filter.Column.eval_on (holds : Predicate.Atom → Bool) (field : String)
    (c : Filter.Column) : (c.on field).eval holds = c.holdsOn holds field := by
  cases c with
  | single k => rfl
  | joined op cs =>
    cases op with
    | and =>
      rw [on, Predicate.eval, Predicate.evalAll_eq_all, List.all_map]
      rfl
    | or =>
      rw [on, Predicate.eval, Predicate.evalAny_eq_any, List.any_map]
      rfl

def StorageFilter.holds (s : StorageFilter) (holds : Predicate.Atom → Bool) : Bool :=
  (s.find.map (Predicate.eval holds)).getD true

def StorageFilter.atoms (s : StorageFilter) : List Predicate.Atom :=
  (s.find.map Predicate.atoms).getD []

namespace Layout
variable {ρ : Type}

def storedColumns (l : Layout ρ) (cs : List (String × Filter.Column)) :
    List (String × Filter.Column) :=
  cs.filterMap fun c =>
    match l.lookup c.1 with
    | some (_, field) => if field.symbolic then none else some (field.target.name, c.2)
    | none => none

/-- The columns that storage never sees, under their property names. -/
def symbolicColumns (l : Layout ρ) (cs : List (String × Filter.Column)) :
    List (String × Filter.Column) :=
  cs.filterMap fun c =>
    match l.lookup c.1 with
    | some (property, field) => if field.symbolic then some (property, c.2) else none
    | none => none

theorem mem_storedColumns {l : Layout ρ} {cs : List (String × Filter.Column)}
    {x : String × Filter.Column} : x ∈ l.storedColumns cs ↔ ∃ c ∈ cs, ∃ property field,
      l.lookup c.1 = some (property, field) ∧ field.symbolic = false ∧
        x = (field.target.name, c.2) := by
  rw [storedColumns, List.mem_filterMap]
  refine exists_congr fun c => and_congr_right fun _ => ?_
  cases found : l.lookup c.1 with
  | none => simp
  | some p =>
    obtain ⟨property, field⟩ := p
    grind

/-- The column means a field that may be filtered on and that one storage column holds. -/
def Admits (l : Layout ρ) (column : String) : Prop :=
  ∃ property field, l.lookup column = some (property, field) ∧ field.unfilterable = false ∧
    field.origin.isVirtual = false ∧ field.target.isExtended = false

theorem partOf_eq_ok_iff {l : Layout ρ} {c : String × Filter.Column} {part : Part} :
    l.partOf c = .ok part ↔ ∃ property field name, l.lookup c.1 = some (property, field) ∧
      field.target = .column name ∧
      part = if field.symbolic then .symbolic property c.2 else .stored (c.2.on name) := by
  cases found : l.lookup c.1 with
  | none => simp [partOf, found]
  | some p =>
    obtain ⟨property, field⟩ := p
    cases ht : field.target with
    | column name =>
      simp only [partOf, columnOf, found, ht, Target.column?]
      grind
    | extended name transform => simp [partOf, columnOf, found, ht, Target.column?]

theorem filterMap_parts {l : Layout ρ} {cs : List (String × Filter.Column)} {parts : List Part}
    (ok : traverse l.partOf cs = .ok parts) :
    parts.filterMap Part.predicate? = (l.storedColumns cs).map (fun c => c.2.on c.1) ∧
      parts.filterMap Part.symbolic? = l.symbolicColumns cs := by
  induction cs generalizing parts with
  | nil =>
    cases ok
    exact ⟨rfl, rfl⟩
  | cons c cs ih =>
    obtain ⟨part, rest, here, there, rfl⟩ := traverse_cons_eq_ok_iff.1 ok
    obtain ⟨property, field, name, found, plain, rfl⟩ := partOf_eq_ok_iff.1 here
    obtain ⟨stored, symbolic⟩ := ih there
    simp only [storedColumns, symbolicColumns] at stored symbolic ⊢
    cases hs : field.symbolic <;>
      simp [List.filterMap_cons, found, plain, hs, stored, symbolic, Part.predicate?,
        Part.symbolic?, Target.name]

theorem admits_iff {l : Layout ρ} {c : String × Filter.Column} :
    l.Admits c.1 ↔ (∃ property field, l.lookup c.1 = some (property, field) ∧
      field.unfilterable = false ∧ field.origin.isVirtual = false) ∧
      ∃ part, l.partOf c = .ok part := by
  constructor
  · rintro ⟨property, field, found, allowed, real, plain⟩
    refine ⟨⟨property, field, found, allowed, real⟩, ?_⟩
    cases ht : field.target with
    | column name => exact ⟨_, partOf_eq_ok_iff.2 ⟨property, field, name, found, ht, rfl⟩⟩
    | extended name transform => simp [ht, Target.isExtended] at plain
  · rintro ⟨⟨property, field, found, allowed, real⟩, part, ok⟩
    obtain ⟨property', field', name, found', plain, -⟩ := partOf_eq_ok_iff.1 ok
    have same : (property, field) = (property', field') := by
      simpa using found.symm.trans found'
    cases same
    exact ⟨property, field, found, allowed, real, by rw [plain]; rfl⟩

theorem all_admits_iff {l : Layout ρ} {f : Filter} :
    (∀ c ∈ f.columns, l.Admits c.1) ↔
      l.acceptFilter f = .ok () ∧ ∃ parts, traverse l.partOf f.columns = .ok parts := by
  rw [acceptFilter_eq_ok_iff, traverse_passes_iff]
  simp only [admits_iff, forall_and]

/-- A filter goes to storage exactly when all of its columns may. -/
theorem storageFilter_eq_ok_iff {l : Layout ρ} {f : Filter} {s : StorageFilter} :
    l.storageFilter f = .ok s ↔ (∀ c ∈ f.columns, l.Admits c.1) ∧
      s = ⟨Predicate.join ((l.storedColumns f.columns).map fun c => c.2.on c.1),
        l.symbolicColumns f.columns⟩ := by
  simp only [all_admits_iff, storageFilter, bind_eq_ok_iff, mapError_eq_ok_iff]
  constructor
  · rintro ⟨_, accepted, parts, read, made⟩
    have halves := filterMap_parts read
    rw [halves.1, halves.2] at made
    cases made
    exact ⟨⟨accepted, parts, read⟩, rfl⟩
  · rintro ⟨⟨accepted, parts, read⟩, rfl⟩
    have halves := filterMap_parts read
    exact ⟨(), accepted, parts, read, by rw [halves.1, halves.2]⟩

/-- Conditions joined by name mean what their columns mean together. -/
theorem holds_of_storageFilter {l : Layout ρ} {f : Filter} {s : StorageFilter}
    (ok : l.storageFilter f = .ok s) (holds : Predicate.Atom → Bool) :
    s.holds holds = (l.storedColumns f.columns).all fun c => c.2.holdsOn holds c.1 := by
  obtain ⟨-, rfl⟩ := storageFilter_eq_ok_iff.1 ok
  rw [StorageFilter.holds, Predicate.eval_join, List.all_map]
  simp only [Function.comp_def, Filter.Column.eval_on]

theorem atoms_of_storageFilter {l : Layout ρ} {f : Filter} {s : StorageFilter}
    (ok : l.storageFilter f = .ok s) :
    s.atoms = (l.storedColumns f.columns).flatMap fun c =>
      c.2.conditions.map fun k => ⟨c.1, k.test, k.operand⟩ := by
  obtain ⟨-, rfl⟩ := storageFilter_eq_ok_iff.1 ok
  rw [StorageFilter.atoms, Predicate.atoms_join, List.flatMap_map]
  simp only [Filter.Column.atoms_on]

theorem origin_of_atom {l : Layout ρ} {f : Filter} {s : StorageFilter}
    (ok : l.storageFilter f = .ok s) {a : Predicate.Atom} (ha : a ∈ s.atoms) :
    ∃ c ∈ f.columns, ∃ property field, l.lookup c.1 = some (property, field) ∧
      field.unfilterable = false ∧ field.origin.isVirtual = false ∧ field.symbolic = false ∧
      field.target = .column a.field ∧
      ∃ k ∈ c.2.conditions, k.test = a.test ∧ k.operand = a.operand := by
  rw [atoms_of_storageFilter ok, List.mem_flatMap] at ha
  obtain ⟨x, stored, own⟩ := ha
  obtain ⟨k, hk, rfl⟩ := List.mem_map.1 own
  obtain ⟨c, hc, property, field, found, plain, rfl⟩ := mem_storedColumns.1 stored
  obtain ⟨property', field', found', allowed, real, single⟩ :=
    (storageFilter_eq_ok_iff.1 ok).1 c hc
  have same : (property, field) = (property', field') := by simpa using found.symm.trans found'
  cases same
  have target : field.target = .column field.target.name := by
    cases ht : field.target with
    | column name => rfl
    | extended name transform => simp [ht, Target.isExtended] at single
  exact ⟨c, hc, property, field, found, allowed, real, plain, target, k, hk, rfl, rfl⟩

structure Preserves (l : Layout ρ) (f : Filter) (s : StorageFilter) : Prop where
  meaning : ∀ holds : Predicate.Atom → Bool,
    s.holds holds = (l.storedColumns f.columns).all fun c => c.2.holdsOn holds c.1
  atoms : s.atoms = (l.storedColumns f.columns).flatMap fun c =>
    c.2.conditions.map fun k => ⟨c.1, k.test, k.operand⟩
  admitted : ∀ c ∈ f.columns, l.Admits c.1
  origin : ∀ a ∈ s.atoms, ∃ c ∈ f.columns, ∃ property field,
    l.lookup c.1 = some (property, field) ∧ field.unfilterable = false ∧
      field.origin.isVirtual = false ∧ field.symbolic = false ∧ field.target = .column a.field ∧
      ∃ k ∈ c.2.conditions, k.test = a.test ∧ k.operand = a.operand
  symbolic : s.symbolic = l.symbolicColumns f.columns

theorem storageFilter_preserves {l : Layout ρ} {f : Filter} {s : StorageFilter}
    (ok : l.storageFilter f = .ok s) : l.Preserves f s where
  meaning := holds_of_storageFilter ok
  atoms := atoms_of_storageFilter ok
  admitted := (storageFilter_eq_ok_iff.1 ok).1
  origin _ ha := origin_of_atom ok ha
  symbolic := by rw [(storageFilter_eq_ok_iff.1 ok).2]

open Directory in
theorem storageFilter_preserves_for_people :
    let l : Layout StockRule := .ofFields "Person" Person.fields
    let blank : Filter.Condition := ⟨.text, .blank, .none⟩
    let named : Filter.Condition := ⟨.text, .startsWith, .single (.text "D")⟩
    let f : Filter := ⟨[("surname", .joined .or []), ("team", .single blank),
      ("firstName", .joined .and [named, blank]), ("lastName", .single named)]⟩
    let s : StorageFilter := ⟨some (.all [.any [],
      .all [.test "first_name" .startsWith (.single (.text "D")), .test "first_name" .blank .none],
      .test "last_name" .startsWith (.single (.text "D"))]), [("team", .single blank)]⟩
    l.storageFilter f = .ok s ∧ l.Preserves f s := by
  intro l blank named f s
  have ok : l.storageFilter f = .ok s := rfl
  exact ⟨ok, storageFilter_preserves ok⟩

end Layout

end FieldMapping
