import FieldMapping.Proofs.Enrichment.Rows

/-! One entity and many. A list is filled from its front, so filling a part of it that
starts there is the beginning of the same run: it gives the first of the same entities,
and where it fails the whole list fails in the same way. A lookup is such a run over the
first entity. It therefore shows what a listing shows first, though it may succeed where
a listing fails further down. -/

namespace FieldMapping

namespace Enrichment
variable {ρ α φ : Type} {assign : Assign α φ} {columns : List (String × String)}

theorem fillRows_append (index : Nat) (front back : List α) (rows : List Record) :
    fillRows assign columns index (front ++ back) rows =
      fillRows assign columns index front rows >>= fun filled =>
        (fillRows assign columns (index + front.length) back (rows.drop front.length)).map
          (filled ++ ·) := by
  induction front generalizing index rows with
  | nil =>
    cases made : fillRows assign columns index back rows <;>
      simp [fillRows, made, bind, Except.bind, Except.map]
  | cons a front ih =>
    cases rows with
    | nil => rfl
    | cons row rows =>
      have shift : index + 1 + front.length = index + (front.length + 1) := by omega
      cases first : fillFrom assign index row columns a with
      | error e => simp [fillRows, first, bind, Except.bind]
      | ok b =>
        simp only [List.cons_append, List.length_cons, List.drop_succ_cons, fillRows, first, ih,
          shift]
        cases fillRows assign columns (index + 1) front rows with
        | error e => rfl
        | ok filled =>
          cases fillRows assign columns (index + (front.length + 1)) back
            (rows.drop front.length) <;> rfl

theorem exists_fill_append (p : Enrichment ρ) (assign : Assign α φ) (front back : List α)
    (rows : List Record) : ∃ rest : Except (EnrichmentError φ) (List α),
      p.fill assign (front ++ back) rows =
        p.fill assign front rows >>= fun filled => rest.map (filled ++ ·) := by
  unfold fill
  split
  · exact ⟨.ok back, rfl⟩
  · exact ⟨_, fillRows_append 0 front back rows⟩

theorem length_fill {p : Enrichment ρ} {entities filled : List α} {rows : List Record}
    (made : p.fill assign entities rows = .ok filled) : filled.length = entities.length := by
  unfold fill at made
  split at made
  · rw [Except.ok.inj made]
  · exact (fillRows_eq_ok_iff.1 made).1

section Front
variable {p : Enrichment ρ} {front back filled : List α} {rows : List Record}
  {e : EnrichmentError φ}

theorem fill_front (made : p.fill assign (front ++ back) rows = .ok filled) :
    p.fill assign front rows = .ok (filled.take front.length) := by
  obtain ⟨rest, split⟩ := exists_fill_append p assign front back rows
  rw [split, bind_eq_ok_iff] at made
  obtain ⟨first, begun, ended⟩ := made
  obtain ⟨last, -, rfl⟩ := map_eq_ok_iff.1 ended
  rw [begun, ← length_fill begun, List.take_left]

theorem fill_front_error (failed : p.fill assign front rows = .error e) :
    p.fill assign (front ++ back) rows = .error e := by
  obtain ⟨rest, split⟩ := exists_fill_append p assign front back rows
  rw [split, failed]
  rfl

end Front

section One
variable {p : Enrichment ρ} {entities filled : List α} {rows : List Record}
  {e : EnrichmentError φ}

theorem fillOne_of_fill (made : p.fill assign entities rows = .ok filled) :
    p.fillOne assign entities.head? rows = .ok filled.head? := by
  cases entities with
  | nil =>
    have none : filled = [] := List.length_eq_zero_iff.1 (length_fill made)
    rw [none]
    rfl
  | cons a entities =>
    have one : p.fill assign [a] rows = .ok (filled.take 1) := fill_front made
    have first : (filled.take 1).head? = filled.head? := by cases filled <;> rfl
    exact map_eq_ok_iff.2 ⟨_, one, first⟩

theorem fill_of_fillOne_error (failed : p.fillOne assign entities.head? rows = .error e) :
    p.fill assign entities rows = .error e := by
  cases entities with
  | nil => cases failed
  | cons a entities => exact fill_front_error (map_eq_error_iff.1 failed)

end One

end Enrichment

namespace Fetcher
variable {ρ σ ε α φ : Type}

/-- The same fetcher, with a note of all that it has been told to select. -/
def noted (x : Fetcher σ ε α) : Fetcher (σ × List (List Selection)) ε α where
  fetch s selections :=
    let (answer, t) := x.fetch s.1 selections
    (answer, t, s.2 ++ [selections])

theorem fetchFirst_agrees (x : Fetcher σ ε α) (p : Enrichment ρ) (assign : Assign α φ)
    (lift : EnrichmentError φ → ε) (s : σ) :
    let many := x.fetchAll p assign lift s
    let one := x.fetchFirst p assign lift s
    (∀ filled, many.1 = .ok filled → one.1 = .ok filled.head?) ∧
    (∀ e, one.1 = .error e → many.1 = .error e) ∧
    ∀ notes, x.noted.fetchAll p assign lift (s, notes) =
        (many.1, many.2, notes ++ [p.selections]) ∧
      x.noted.fetchFirst p assign lift (s, notes) = (one.1, many.2, notes ++ [p.selections]) := by
  intro many one
  refine ⟨fun filled listed => ?_, fun e failed => ?_, fun notes => ⟨rfl, rfl⟩⟩
  · obtain ⟨⟨rows, entities⟩, fetched, made⟩ := bind_eq_ok_iff.1 listed
    refine bind_eq_ok_iff.2 ⟨(rows, entities), fetched, ?_⟩
    exact mapError_eq_ok_iff.2 (Enrichment.fillOne_of_fill (mapError_eq_ok_iff.1 made))
  · rcases bind_eq_error_iff.1 failed with refused | ⟨⟨rows, entities⟩, fetched, refused⟩
    · exact bind_eq_error_iff.2 (.inl refused)
    · refine bind_eq_error_iff.2 (.inr ⟨(rows, entities), fetched, ?_⟩)
      obtain ⟨cause, unfilled, rfl⟩ := mapError_eq_error_iff.1 refused
      exact mapError_eq_error_iff.2 ⟨cause, Enrichment.fill_of_fillOne_error unfilled, rfl⟩

open Directory in
theorem fetchFirst_agrees_for_two :
    let l : Layout StockRule := .ofFields "Person"
      [("firstName", .column "first_name"), ("fullName", .derived "full_name" "CONCAT(a, b)")]
    let p : Enrichment StockRule := ⟨l, "p", bareAlias⟩
    let jane : Record := [("firstName", .string "Jane")]
    let john : Record := [("fullName", .string "?")]
    let answer (rows : List Record) : Fetcher Nat EnrichmentError Record :=
      ⟨fun n _ => (.ok (rows, [jane, john]), n + 1)⟩
    let x := answer [[("p.fullName", .string "Jane Doe")], [("p.fullName", .string "John Roe")]]
    let y := answer [[]]
    let filled : Record := [("firstName", .string "Jane"), ("fullName", .string "Jane Doe")]
    ((x.fetchAll p assignRecord id 0).1 = .ok [filled, [("fullName", .string "John Roe")]] ∧
      (x.fetchFirst p assignRecord id 0).1 = .ok (some filled)) ∧
    ((y.fetchFirst p assignRecord id 0).1 = .error (.missingColumn 0 "p.fullName") ∧
      (y.fetchAll p assignRecord id 0).1 = .error (.missingColumn 0 "p.fullName")) := by
  intro l p jane john answer x y filled
  have listed : (x.fetchAll p assignRecord id 0).1 =
    .ok [filled, [("fullName", .string "John Roe")]] := by rfl
  have failed : (y.fetchFirst p assignRecord id 0).1 =
    .error (.missingColumn 0 "p.fullName") := by rfl
  exact ⟨⟨listed, (fetchFirst_agrees x p assignRecord id 0).1 _ listed⟩,
    failed, (fetchFirst_agrees y p assignRecord id 0).2.1 _ failed⟩

end Fetcher

end FieldMapping
