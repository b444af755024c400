import FieldMapping.Directory.Rules
import FieldMapping.Enrichment
import FieldMapping.Traverse

/-! Filling entities from rows, said without the loops. The entity in a place is filled from
the row in the same place, by the derived fields in their order, and from no other row. The
first check that fails, row after row and in each row field after field, is the failure of
the whole. Rows behind the last entity and columns that nobody selected do not matter. -/

namespace FieldMapping

namespace Enrichment
variable {ρ α φ : Type} {assign : Assign α φ} {columns : List (String × String)}

inductive Fills (assign : Assign α φ) (row : Record) : List (String × String) → α → α → Prop
  | done (a : α) : Fills assign row [] a a
  | step {property column : String} {value : Value} {rest : List (String × String)} {a b c : α}
      (here : row.get? column = some value) (taken : assign a property value = .ok b)
      (others : Fills assign row rest b c) : Fills assign row ((property, column) :: rest) a c

/-- A column that fails, all columns before it having been taken. -/
def Halts (assign : Assign α φ) (index : Nat) (row : Record) (columns : List (String × String))
    (a : α) (e : EnrichmentError φ) : Prop :=
  ∃ before property column after b, columns = before ++ (property, column) :: after ∧
    Fills assign row before a b ∧
    (row.get? column = none ∧ e = .missingColumn index column ∨
      ∃ value cause, row.get? column = some value ∧ assign b property value = .error cause ∧
        e = .assign cause)

section Row
variable {row : Record} {index : Nat} {a b c : α} {e : EnrichmentError φ}

theorem fills_nil_iff : Fills assign row [] a b ↔ a = b := by
  constructor
  · rintro ⟨⟩
    rfl
  · rintro rfl
    exact .done a

theorem fills_cons_iff {property column : String} {rest : List (String × String)} :
    Fills assign row ((property, column) :: rest) a c ↔
      ∃ value b, row.get? column = some value ∧ assign a property value = .ok b ∧
        Fills assign row rest b c := by
  constructor
  · rintro (_ | ⟨here, taken, others⟩)
    exact ⟨_, _, here, taken, others⟩
  · rintro ⟨value, b, here, taken, others⟩
    exact .step here taken others

theorem fillFrom_eq_ok_iff :
    fillFrom assign index row columns a = .ok b ↔ Fills assign row columns a b := by
  induction columns generalizing a with
  | nil => simp [fillFrom, fills_nil_iff]
  | cons column columns ih =>
    rw [fills_cons_iff]
    cases here : row.get? column.2 with
    | none => simp [fillFrom, here]
    | some value => cases taken : assign a column.1 value <;> simp [fillFrom, here, taken, ih]

theorem halts_nil : ¬ Halts assign index row [] a e := by
  rintro ⟨before, property, column, after, b, split, -⟩
  simp at split

theorem halts_cons_iff {property column : String} {rest : List (String × String)} :
    Halts assign index row ((property, column) :: rest) a e ↔
      row.get? column = none ∧ e = .missingColumn index column ∨
        ∃ value, row.get? column = some value ∧
          ((∃ cause, assign a property value = .error cause ∧ e = .assign cause) ∨
            ∃ b, assign a property value = .ok b ∧ Halts assign index row rest b e) := by
  constructor
  · rintro ⟨before, property', column', after, b, split, filled, fails⟩
    cases before with
    | nil =>
      simp only [List.nil_append, List.cons.injEq, Prod.mk.injEq] at split
      obtain ⟨⟨rfl, rfl⟩, rfl⟩ := split
      rw [fills_nil_iff] at filled
      subst filled
      rcases fails with gone | ⟨value, cause, here, refused, rfl⟩
      · exact .inl gone
      · exact .inr ⟨value, here, .inl ⟨cause, refused, rfl⟩⟩
    | cons first before =>
      simp only [List.cons_append, List.cons.injEq] at split
      obtain ⟨rfl, rfl⟩ := split
      obtain ⟨value, c, here, taken, others⟩ := fills_cons_iff.1 filled
      exact .inr ⟨value, here, .inr ⟨c, taken, before, property', column', after, b, rfl,
        others, fails⟩⟩
  · rintro (gone | ⟨value, here, ⟨cause, refused, rfl⟩ | ⟨c, taken, before, property', column',
      after, b, rfl, others, fails⟩⟩)
    · exact ⟨[], property, column, rest, a, rfl, .done a, .inl gone⟩
    · exact ⟨[], property, column, rest, a, rfl, .done a, .inr ⟨value, cause, here, refused, rfl⟩⟩
    · exact ⟨(property, column) :: before, property', column', after, b, rfl,
        .step here taken others, fails⟩

theorem fillFrom_eq_error_iff :
    fillFrom assign index row columns a = .error e ↔ Halts assign index row columns a e := by
  induction columns generalizing a with
  | nil => simp [fillFrom, halts_nil]
  | cons column columns ih =>
    rw [halts_cons_iff]
    cases here : row.get? column.2 with
    | none => simp [fillFrom, here, eq_comm]
    | some value =>
      cases taken : assign a column.1 value <;> simp [fillFrom, here, taken, ih, eq_comm]

end Row

def Fillable (assign : Assign α φ) (columns : List (String × String)) (rows : List Record)
    (i : Nat) (a : α) : Prop :=
  ∃ row, rows[i]? = some row ∧ ∃ b, Fills assign row columns a b

def FilledByRow (assign : Assign α φ) (columns : List (String × String)) (entities : List α)
    (rows : List Record) (filled : List α) : Prop :=
  filled.length = entities.length ∧ ∀ (i : Nat) (a : α), entities[i]? = some a →
    ∃ row, rows[i]? = some row ∧ ∃ b, filled[i]? = some b ∧ Fills assign row columns a b

def FailsAt (assign : Assign α φ) (columns : List (String × String)) (index : Nat)
    (rows : List Record) (i : Nat) (a : α) (e : EnrichmentError φ) : Prop :=
  rows[i]? = none ∧ e = .missingRow (index + i) ∨
    ∃ row, rows[i]? = some row ∧ Halts assign (index + i) row columns a e

/-- The first entity that fails; those before it can be filled. -/
def FailsFirst (assign : Assign α φ) (columns : List (String × String)) (index : Nat)
    (entities : List α) (rows : List Record) (e : EnrichmentError φ) : Prop :=
  ∃ i a, entities[i]? = some a ∧
    (∀ j < i, ∀ b, entities[j]? = some b → Fillable assign columns rows j b) ∧
    FailsAt assign columns index rows i a e

section Rows
variable {index : Nat} {entities filled : List α} {rows : List Record} {row : Record} {a : α}
  {e : EnrichmentError φ}

theorem filledByRow_cons_iff :
    FilledByRow assign columns (a :: entities) (row :: rows) filled ↔
      ∃ b rest, filled = b :: rest ∧ Fills assign row columns a b ∧
        FilledByRow assign columns entities rows rest := by
  constructor
  · rintro ⟨length, each⟩
    cases filled with
    | nil => simp at length
    | cons b rest =>
      obtain ⟨_, ⟨⟩, _, ⟨⟩, first⟩ := each 0 a rfl
      refine ⟨b, rest, rfl, first, by simpa using length, fun i c there => ?_⟩
      simpa using each (i + 1) c (by simpa using there)
  · rintro ⟨b, rest, rfl, first, length, each⟩
    refine ⟨by simp [length], fun i c there => ?_⟩
    cases i with
    | zero =>
      cases there
      exact ⟨row, rfl, b, rfl, first⟩
    | succ i => simpa using each i c (by simpa using there)

theorem fillRows_eq_ok_iff :
    fillRows assign columns index entities rows = .ok filled ↔
      FilledByRow assign columns entities rows filled := by
  induction entities generalizing index rows filled with
  | nil => cases filled <;> simp [fillRows, FilledByRow]
  | cons a entities ih =>
    cases rows with
    | nil =>
      refine ⟨nofun, ?_⟩
      rintro ⟨-, each⟩
      obtain ⟨row, impossible, -⟩ := each 0 a rfl
      cases impossible
    | cons row rows =>
      simp only [fillRows, bind_eq_ok_iff, fillFrom_eq_ok_iff, ih, filledByRow_cons_iff]
      constructor
      · rintro ⟨b, first, rest, others, ⟨⟩⟩
        exact ⟨b, rest, rfl, first, others⟩
      · rintro ⟨b, rest, rfl, first, others⟩
        exact ⟨b, first, rest, others, rfl⟩

theorem failsFirst_cons_iff :
    FailsFirst assign columns index (a :: entities) (row :: rows) e ↔
      Halts assign index row columns a e ∨
        (∃ b, Fills assign row columns a b) ∧
          FailsFirst assign columns (index + 1) entities rows e := by
  have shift : ∀ i, index + 1 + i = index + (i + 1) := fun i => by omega
  constructor
  · rintro ⟨i, c, there, before, fails⟩
    cases i with
    | zero =>
      cases there
      rcases fails with ⟨gone, -⟩ | ⟨_, ⟨⟩, halts⟩
      · cases gone
      · exact .inl halts
    | succ i =>
      obtain ⟨_, ⟨⟩, b, first⟩ := before 0 (by omega) a rfl
      refine .inr ⟨⟨b, first⟩, i, c, by simpa using there, fun j earlier d here => ?_, ?_⟩
      · simpa [Fillable] using before (j + 1) (by omega) d (by simpa using here)
      · simpa [FailsAt, shift] using fails
  · rintro (halts | ⟨⟨b, first⟩, i, c, there, before, fails⟩)
    · exact ⟨0, a, rfl, by simp, .inr ⟨row, rfl, halts⟩⟩
    · refine ⟨i + 1, c, by simpa using there, fun j earlier d here => ?_, ?_⟩
      · cases j with
        | zero =>
          cases here
          exact ⟨row, rfl, b, first⟩
        | succ j => simpa [Fillable] using before j (by omega) d (by simpa using here)
      · simpa [FailsAt, shift] using fails

theorem fillRows_eq_error_iff :
    fillRows assign columns index entities rows = .error e ↔
      FailsFirst assign columns index entities rows e := by
  induction entities generalizing index rows with
  | nil => simp [fillRows, FailsFirst]
  | cons a entities ih =>
    cases rows with
    | nil =>
      -- without a row there is no entity before the one that fails
      simp only [fillRows, Except.error.injEq]
      constructor
      · rintro rfl
        exact ⟨0, a, rfl, by simp, .inl ⟨rfl, rfl⟩⟩
      · rintro ⟨i, b, there, before, fails⟩
        cases i with
        | zero =>
          rcases fails with ⟨-, rfl⟩ | ⟨_, impossible, -⟩
          · rfl
          · cases impossible
        | succ i =>
          obtain ⟨_, impossible, -⟩ := before 0 (by omega) a rfl
          cases impossible
    | cons row rows =>
      simp only [fillRows, bind_eq_error_iff, fillFrom_eq_error_iff, fillFrom_eq_ok_iff,
        failsFirst_cons_iff, ← ih, reduceCtorEq, and_false, exists_false, or_false,
        exists_and_right]

theorem FailsAt.not_fillable {i : Nat} (fails : FailsAt assign columns index rows i a e) :
    ¬ Fillable assign columns rows i a := by
  rintro ⟨row, here, b, filled⟩
  rcases fails with ⟨gone, -⟩ | ⟨_, same, halts⟩
  · cases here.symm.trans gone
  · cases here.symm.trans same
    cases (fillFrom_eq_ok_iff.2 filled).symm.trans (fillFrom_eq_error_iff.2 halts)

theorem fillRows_passes_iff :
    (∃ filled, fillRows assign columns index entities rows = .ok filled) ↔
      ∀ i a, entities[i]? = some a → Fillable assign columns rows i a := by
  constructor
  · rintro ⟨filled, made⟩ i a there
    obtain ⟨row, here, b, -, fills⟩ := (fillRows_eq_ok_iff.1 made).2 i a there
    exact ⟨row, here, b, fills⟩
  · intro fillable
    cases made : fillRows assign columns index entities rows with
    | ok filled => exact ⟨filled, rfl⟩
    | error e =>
      obtain ⟨i, a, there, -, fails⟩ := fillRows_eq_error_iff.1 made
      exact absurd (fillable i a there) fails.not_fillable

end Rows

def shown (columns : List (String × String)) (row : Record) : List (Option Value) :=
  columns.map fun column => row.get? column.2

theorem fillFrom_congr {row row' : Record} (index : Nat)
    (same : shown columns row' = shown columns row) (a : α) :
    fillFrom assign index row' columns a = fillFrom assign index row columns a := by
  induction columns generalizing a with
  | nil => rfl
  | cons column columns ih =>
    simp only [shown, List.map_cons, List.cons.injEq] at same
    have others : ∀ b, fillFrom assign index row' columns b =
        fillFrom assign index row columns b := ih same.2
    simp only [fillFrom, same.1, others]

theorem fillRows_congr {rows rows' : List Record} (index : Nat) {entities : List α}
    (same : ∀ i < entities.length, rows'[i]?.map (shown columns) = rows[i]?.map (shown columns)) :
    fillRows assign columns index entities rows' = fillRows assign columns index entities rows := by
  induction entities generalizing index rows rows' with
  | nil => rfl
  | cons a entities ih =>
    have first : rows'[0]?.map (shown columns) = rows[0]?.map (shown columns) :=
      same 0 (by simp)
    cases rows with
    | nil =>
      cases rows' with
      | nil => rfl
      | cons row' rows' => simp at first
    | cons row rows =>
      cases rows' with
      | nil => simp at first
      | cons row' rows' =>
        have later : fillRows assign columns (index + 1) entities rows' =
            fillRows assign columns (index + 1) entities rows :=
          ih (index + 1) fun i inside => by
            simpa using same (i + 1) (by simpa using inside)
        simp only [fillRows, fillFrom_congr index (by simpa using first), later]

theorem fill_row_by_row (p : Enrichment ρ) (assign : Assign α φ) (entities : List α)
    (rows : List Record) :
    (entities = [] ∨ p.layout.derived = [] → p.fill assign entities rows = .ok entities) ∧
    (p.layout.derived ≠ [] →
      ((∃ filled, p.fill assign entities rows = .ok filled) ↔
        ∀ (i : Nat) (a : α), entities[i]? = some a → Fillable assign p.columns rows i a) ∧
      (∀ filled, p.fill assign entities rows = .ok filled ↔
        FilledByRow assign p.columns entities rows filled) ∧
      ∀ e, p.fill assign entities rows = .error e ↔
        FailsFirst assign p.columns 0 entities rows e) ∧
    ∀ rows' : List Record, (∀ i < entities.length,
      rows'[i]?.map (shown p.columns) = rows[i]?.map (shown p.columns)) →
        p.fill assign entities rows' = p.fill assign entities rows := by
  have columns : p.columns.isEmpty = true ↔ p.layout.derived = [] := by simp [Enrichment.columns]
  refine ⟨?_, fun some => ?_, fun rows' same => ?_⟩
  · rintro (rfl | none)
    · simp [fill, fillRows]
    · rw [fill, if_pos (columns.2 none)]
  · have each : p.fill assign entities rows = fillRows assign p.columns 0 entities rows :=
      if_neg (fun empty => some (columns.1 empty))
    rw [each]
    exact ⟨fillRows_passes_iff, fun filled => fillRows_eq_ok_iff, fun e => fillRows_eq_error_iff⟩
  · rw [fill, fill, fillRows_congr 0 same]

open Directory in
theorem fill_row_by_row_until_null :
    let l : Layout StockRule := .ofFields "Person"
      [("firstName", .column "first_name"), ("fullName", .derived "full_name" "CONCAT(a, b)"),
       ("nick", .derived "nick" "NICK(a)")]
    let p : Enrichment StockRule := ⟨l, "p", bareAlias⟩
    let assign : Assign Record String := fun a property value =>
      if value = .null then .error property else .ok (a.put property value)
    let entities : List Record := [[("firstName", .string "Jane")], [("firstName", .string "John")]]
    let rows : List Record :=
      [[("p.nick", .string "J"), ("p.age", .bool true), ("p.fullName", .string "Jane Doe")],
       [("p.fullName", .string "John Roe"), ("p.nick", .null)], []]
    let rows' : List Record :=
      [[("p.fullName", .string "Jane Doe"), ("p.nick", .string "J")],
       [("p.nick", .null), ("p.fullName", .string "John Roe")]]
    p.fill assign [] rows = .ok [] ∧ l.derived ≠ [] ∧
      p.fill assign entities rows = .error (.assign "nick") ∧
      FailsFirst assign p.columns 0 entities rows (.assign "nick") ∧
      (∀ i < entities.length,
        rows'[i]?.map (shown p.columns) = rows[i]?.map (shown p.columns)) ∧
      p.fill assign entities rows' = p.fill assign entities rows := by
  intro l p assign entities rows rows'
  have some : l.derived ≠ [] := by decide
  have fails : p.fill assign entities rows = .error (.assign "nick") := by rfl
  have same : ∀ i < entities.length,
      rows'[i]?.map (shown p.columns) = rows[i]?.map (shown p.columns) := by decide +kernel
  obtain ⟨-, exact, surplus⟩ := fill_row_by_row p assign entities rows
  exact ⟨(fill_row_by_row p assign [] rows).1 (.inl rfl), some, fails,
    ((exact some).2.2 _).1 fails, same, surplus rows' same⟩

end Enrichment

end FieldMapping
