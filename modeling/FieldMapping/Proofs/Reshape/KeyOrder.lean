import FieldMapping.Directory.Rules
import FieldMapping.Proofs.Reshape.Conservation

/-! The order of a record's keys. Fields ask for keys by name, so in whatever order these
stand each field takes the same value and finds the same values put out before its own,
in the same order. Only what is carried along behind them keeps the order in which it came. -/

namespace FieldMapping

namespace Layout
variable {ρ : Type} {l : Layout ρ} {record other : Record} {shape : Shape}

theorem takingsFrom_congr (same : ∀ key, other.get? key = record.get? key)
    (gone : List String) (fields : List (String × Field ρ)) :
    takingsFrom other gone fields = takingsFrom record gone fields := by
  have each : ∀ gone (p : String × Field ρ), pick other gone p = pick record gone p :=
    fun gone p => pick_congr (fun name _ => same name) gone
  induction fields generalizing gone with
  | nil => rfl
  | cons p fields ih => simp only [takingsFrom, each, ih]

theorem takings_perm (l : Layout ρ) (distinct : record.Distinct) (perm : record.Perm other) :
    l.takings other = l.takings record :=
  takingsFrom_congr (fun key => (Assoc.get?_perm distinct perm key).symm) [] l.fields

theorem carried_perm (l : Layout ρ) (shape : Shape) (distinct : record.Distinct)
    (perm : record.Perm other) : (l.carried shape record).Perm (l.carried shape other) := by
  unfold carried leftover Assoc.without
  rw [l.takings_perm distinct perm]
  exact (perm.filter _).filter _

theorem onto_perm [Rule ρ] (l : Layout ρ) (distinct : record.Distinct)
    (perm : record.Perm other) (shape : Shape) :
    l.takings other = l.takings record ∧
    ((∃ e, (Source.mapped l record).onto shape = .error e ∧
      (Source.mapped l other).onto shape = .error e) ∨
    ∃ written rest rest' : Record,
      (Source.mapped l record).onto shape = .ok (some (written ++ rest)) ∧
      (Source.mapped l other).onto shape = .ok (some (written ++ rest')) ∧
      written.keys = ((l.takings record).map Taking.target).eraseDups ∧
      (∀ p ∈ rest, p ∈ record ∧ l.Untaken record p.1 ∧ l.Unwritten record p.1 ∧
        shape.has p.1 = true) ∧
      rest.Perm rest' ∧ ∀ key, (written ++ rest).get? key = (written ++ rest').get? key) := by
  have takings := l.takings_perm distinct perm
  refine ⟨takings, ?_⟩
  have distinct' : other.Distinct := Assoc.distinct_perm distinct perm
  cases made : l.reshape record shape with
  | error e =>
    left
    have failed := (l.reshape_eq_error_iff distinct shape).1 made
    rw [← takings] at failed
    have failed' := (l.reshape_eq_error_iff distinct' shape).2 failed
    exact ⟨e, map_eq_error_iff.2 made, map_eq_error_iff.2 failed'⟩
  | ok out =>
    right
    obtain ⟨declared, rfl⟩ := (l.reshape_eq_ok_iff distinct shape).1 made
    have made' : l.reshape other shape =
        .ok (Taking.putAll (l.takings record) ++ l.carried shape other) := by
      rw [l.reshape_eq_ok_iff distinct' shape, takings]
      exact ⟨declared, rfl⟩
    have carried := l.carried_perm shape distinct perm
    refine ⟨_, _, _, map_eq_ok_iff.2 ⟨_, made, rfl⟩, map_eq_ok_iff.2 ⟨_, made', rfl⟩,
      Taking.keys_putAll _, fun p => mem_carried, carried, fun key => ?_⟩
    have apart : (l.carried shape record).Distinct := l.distinct_carried shape distinct
    rw [Assoc.get?_append, Assoc.get?_append, Assoc.get?_perm apart carried]

open Directory in
theorem onto_perm_for_listed_keys :
    let l : Layout StockRule := .ofFields "Product"
      [("code", .column "id"), ("trace", Field.of (.extended "seen" (some ⟨"keys", .keys⟩)))]
    let shape := Shape.ofKeys ["seen", "id", "unit", "price"]
    let record : Record := [("unit", .string "kg"), ("trace", .null), ("price", .bool true),
      ("code", .string "W1")]
    let written : Record := [("id", .string "W1"), ("seen", .array [.string "id"])]
    record.Distinct ∧ record.Perm record.reverse ∧
    (Source.mapped l record).onto shape =
      .ok (some (written ++ [("unit", .string "kg"), ("price", .bool true)])) ∧
    (Source.mapped l record.reverse).onto shape =
      .ok (some (written ++ [("price", .bool true), ("unit", .string "kg")])) ∧
    ∃ out out', (Source.mapped l record).onto shape = .ok (some out) ∧
      (Source.mapped l record.reverse).onto shape = .ok (some out') ∧
      ∀ key, out.get? key = out'.get? key := by
  intro l shape record written
  have distinct : record.Distinct := by decide
  have perm : record.Perm record.reverse := (List.reverse_perm record).symm
  have made : (Source.mapped l record).onto shape =
    .ok (some (written ++ [("unit", .string "kg"), ("price", .bool true)])) := rfl
  refine ⟨distinct, perm, made, rfl, ?_⟩
  rcases (onto_perm l distinct perm shape).2 with ⟨e, failed, -⟩ |
    ⟨written, rest, rest', first, second, -, -, -, same⟩
  · cases made.symm.trans failed
  · exact ⟨_, _, first, second, same⟩

end Layout

end FieldMapping
