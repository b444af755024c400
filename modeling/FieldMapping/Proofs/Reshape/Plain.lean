import Mathlib.Data.Finset.Dedup
import FieldMapping.Directory.Rules
import FieldMapping.Reshape

/-! Records without a layout. A shape only counts the keys of such a record and looks for
each of them among its own, but as neither side has a key twice, that is enough to tell
whether both have the same keys. The record then goes through as it is, and otherwise it
does not go through at all. -/

namespace FieldMapping

namespace Shape
variable {record : Record}

theorem mem_ofKeys {keys : List String} {key : String} :
    key ∈ (ofKeys keys).keys ↔ key ∈ keys :=
  List.mem_eraseDups

theorem fits_iff_length_subset (s : Shape) (record : Record) :
    s.fits record = true ↔ record.keys.length = s.keys.length ∧ record.keys ⊆ s.keys := by
  simp [fits, has, List.subset_def, Assoc.keys]

theorem fits_iff_perm (s : Shape) (distinct : record.Distinct) :
    s.fits record = true ↔ record.keys.Perm s.keys := by
  rw [fits_iff_length_subset]
  constructor
  · rintro ⟨length, inside⟩
    have subperm : record.keys.Subperm s.keys := List.subperm_of_subset distinct inside
    exact subperm.perm_of_length_le length.ge
  · intro perm
    exact ⟨perm.length_eq, perm.subset⟩

theorem fits_iff (s : Shape) (distinct : record.Distinct) :
    s.fits record = true ↔ ∀ key, key ∈ record.keys ↔ key ∈ s.keys := by
  rw [s.fits_iff_perm distinct, List.perm_ext_iff_of_nodup distinct s.distinct]

theorem fits_ofKeys_iff (distinct : record.Distinct) (keys : List String) :
    (ofKeys keys).fits record = true ↔ record.keys.toFinset = keys.toFinset := by
  rw [fits_iff _ distinct, Finset.ext_iff]
  simp only [mem_ofKeys, List.mem_toFinset]

end Shape

namespace Source
variable {ρ : Type} [Rule ρ] {record : Record}

/-- A record without a layout is never refused with an error, and it is never altered. -/
theorem onto_plain_eq (distinct : record.Distinct) (keys : List String) :
    (plain (ρ := ρ) record).onto (Shape.ofKeys keys) =
      .ok (if record.keys.toFinset = keys.toFinset then some record else none) := by
  simp only [onto, Shape.fits_ofKeys_iff distinct keys]

open Directory in
theorem onto_plain_eq_for_cards :
    let record : Record := [("email", .string "a@b.c"), ("title", .string "Dr")]
    let onto := (plain (ρ := StockRule) record).onto
    record.Distinct ∧
      onto (Shape.ofKeys ["title", "email", "title"]) = .ok (some record) ∧
      onto (Shape.ofKeys ["title", "title"]) = .ok none ∧
      onto (Shape.ofKeys ["title", "email", "name"]) = .ok none := by
  intro record onto
  have distinct : record.Distinct := by decide
  exact ⟨distinct, (onto_plain_eq distinct _).trans (by rfl),
    (onto_plain_eq distinct _).trans (by rfl), (onto_plain_eq distinct _).trans (by rfl)⟩

end Source

end FieldMapping
