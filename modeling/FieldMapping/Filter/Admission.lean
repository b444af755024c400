import FieldMapping.Filter.Error
import FieldMapping.Layout
import FieldMapping.Traverse

/-! Which columns of a filter a layout lets through. A column must mean a field,
the field must not refuse filters, and it must have a counterpart in storage;
whether that counterpart is a single column is not asked here. -/

namespace FieldMapping.Layout
variable {ρ : Type}

def acceptColumn (l : Layout ρ) (column : String) : Except Filter.Error (String × Field ρ) :=
  match l.lookup column with
  | none => .error (.unknownColumn l.entity column)
  | some (property, field) =>
    if field.unfilterable then .error (.prohibited column)
    else if field.origin.isVirtual then .error (.impossible column .virtualFilter)
    else .ok (property, field)

theorem acceptColumn_eq_ok_iff {l : Layout ρ} {column property : String} {field : Field ρ} :
    l.acceptColumn column = .ok (property, field) ↔
      l.lookup column = some (property, field) ∧ field.unfilterable = false ∧
        field.origin.isVirtual = false := by
  unfold acceptColumn
  split
  · next h => simp [h]
  · next p f h =>
    rw [h]
    grind

theorem acceptColumn_error_ne {l : Layout ρ} {column : String} {e : Filter.Error}
    (h : l.acceptColumn column = .error e) (c : String) : e ≠ .impossible c .noStorageName := by
  unfold acceptColumn at h
  split at h
  · cases h
    simp
  · split at h
    · cases h
      simp
    · split at h <;> cases h
      simp

def acceptFilter (l : Layout ρ) (f : Filter) : Except Filter.Error Unit :=
  (traverse (fun c => l.acceptColumn c.1) f.columns).map fun _ => ()

theorem acceptFilter_eq_ok_iff {l : Layout ρ} {f : Filter} :
    l.acceptFilter f = .ok () ↔ ∀ c ∈ f.columns, ∃ property field,
      l.lookup c.1 = some (property, field) ∧ field.unfilterable = false ∧
        field.origin.isVirtual = false := by
  rw [acceptFilter, map_eq_ok_iff]
  simp only [and_true, traverse_passes_iff, Prod.exists, acceptColumn_eq_ok_iff]

theorem acceptFilter_error_ne {l : Layout ρ} {f : Filter} {e : Filter.Error}
    (h : l.acceptFilter f = .error e) (c : String) : e ≠ .impossible c .noStorageName := by
  cases ht : traverse (fun c => l.acceptColumn c.1) f.columns with
  | ok ps => simp [acceptFilter, ht, Except.map] at h
  | error e' =>
    have same : e' = e := by simpa [acceptFilter, ht, Except.map] using h
    obtain ⟨a, -, bad⟩ := exists_mem_of_traverse_error (same ▸ ht)
    exact acceptColumn_error_ne bad c

end FieldMapping.Layout
