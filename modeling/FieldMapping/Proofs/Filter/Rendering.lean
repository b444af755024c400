import FieldMapping.Proofs.Calendar.Layouts
import FieldMapping.Proofs.Filter.Grammar

/-! Scalars that were read from a filter, rendered and read once more. Only the fraction
of a second is lost on the way, and nothing is lost the next time. -/

namespace FieldMapping

namespace Filter

def Scalar.whole : Scalar → Scalar
  | date m => date m.whole
  | s => s

theorem Scalar.whole_eq_iff {s : Scalar} :
    s.whole = s ↔ ∀ m, s = date m → m.nano % 1000000000 = 0 := by
  cases s <;> simp [whole, Calendar.Moment.whole_eq_iff]

theorem Scalar.toValue_whole (s : Scalar) : s.whole.toValue = s.toValue := by
  cases s <;> simp [whole, toValue, Calendar.Moment.render_whole]

theorem Kind.Denotes.toValue {kind : Kind} {v : Value} {s : Scalar} (denotes : kind.Denotes v s) :
    kind.Denotes s.toValue s.whole := by
  cases denotes with
  | text s => exact .text s
  | number n | numeral => exact .number _
  | date reads => exact .date (Calendar.Moment.printable_of_ofText? reads).ofText?_render
  | boolean b => exact .boolean b

/-- What was read is rendered and read again, wherever it stands, as the same scalar up to
the fraction of its second, and as the very same if there is none. -/
theorem scalarOf_toValue {column argument : String} {kind : Kind} {found : Option Value}
    {s : Scalar} (read : scalarOf column kind argument found = .ok s)
    (column' argument' : String) :
    scalarOf column' kind argument' (some s.toValue) = .ok s.whole ∧
      s.whole.toValue = s.toValue ∧
      (scalarOf column' kind argument' (some s.toValue) = .ok s ↔
        ∀ m, s = .date m → m.nano % 1000000000 = 0) := by
  obtain ⟨v, -, denotes⟩ := (scalarOf_eq_ok_iff column).1 read
  have again : scalarOf column' kind argument' (some s.toValue) = .ok s.whole :=
    (scalarOf_eq_ok_iff column').2 ⟨_, rfl, denotes.toValue⟩
  refine ⟨again, s.toValue_whole, ?_⟩
  rw [again, Except.ok.injEq, Scalar.whole_eq_iff]

theorem scalarOf_toValue_past_year_9999 :
    let leap : Calendar.Moment :=
      ⟨⟨10000, 1, 1, by decide, by decide⟩, 59, 1250000000, by decide, by decide⟩
    let read := scalarOf "at" .date "dateFrom"
    read (some (.string "9999-12-31T23:59:60.25-00:01")) = .ok (.date leap) ∧
      (Scalar.date leap).toValue = .string "+10000-01-01 00:00:60" ∧
      read (some (.string "+10000-01-01 00:00:60")) = .ok (.date leap.whole) ∧
      read (some (.string "+10000-01-01 00:00:60")) ≠ .ok (.date leap) := by
  intro leap read
  have once : read (some (.string "9999-12-31T23:59:60.25-00:01")) = .ok (.date leap) := by
    decide +kernel
  have printed : (Scalar.date leap).toValue = .string "+10000-01-01 00:00:60" := by decide +kernel
  obtain ⟨again, -, same⟩ := scalarOf_toValue once "at" "dateFrom"
  rw [printed] at again same
  refine ⟨once, printed, again, ?_⟩
  rw [ne_eq, same]
  exact fun whole => absurd (whole leap rfl) (by decide)

/-- Half a second is not in the rendered text. -/
theorem half_second_lost :
    let halfPast : Calendar.Moment :=
      ⟨⟨2024, 3, 1, by decide, by decide⟩, 37800, 500000000, by decide, by decide⟩
    let read := scalarOf "at" .date "dateFrom"
    read (some (.string "2024-03-01T10:30:00.5Z")) = .ok (.date halfPast) ∧
      read (some (Scalar.date halfPast).toValue) ≠ .ok (.date halfPast) := by
  decide +kernel

end Filter

end FieldMapping
