/-! A step that may fail, taken on every member of a list in order.
The first failure is the failure of the whole. -/

namespace FieldMapping

variable {α β γ ε φ : Type}

theorem bind_eq_ok_iff {x : Except ε α} {f : α → Except ε β} {b : β} :
    x >>= f = .ok b ↔ ∃ a, x = .ok a ∧ f a = .ok b := by
  cases x <;> simp [bind, Except.bind]

theorem bind_eq_error_iff {x : Except ε α} {f : α → Except ε β} {e : ε} :
    x >>= f = .error e ↔ x = .error e ∨ ∃ a, x = .ok a ∧ f a = .error e := by
  cases x <;> simp [bind, Except.bind]

theorem map_eq_ok_iff {x : Except ε α} {f : α → β} {b : β} :
    x.map f = .ok b ↔ ∃ a, x = .ok a ∧ f a = b := by
  cases x <;> simp [Except.map]

theorem map_eq_error_iff {x : Except ε α} {f : α → β} {e : ε} :
    x.map f = .error e ↔ x = .error e := by
  cases x <;> simp [Except.map]

theorem map_passes_iff {x : Except ε α} {f : α → β} :
    (∃ b, x.map f = .ok b) ↔ ∃ a, x = .ok a := by
  cases x <;> simp [Except.map]

theorem fails_iff {x : Except ε α} : (∃ e, x = .error e) ↔ ¬ ∃ a, x = .ok a := by
  cases x <;> simp

theorem mapError_eq_ok_iff {x : Except ε α} {r : ε → φ} {a : α} :
    x.mapError r = .ok a ↔ x = .ok a := by
  cases x with
  | error e => exact ⟨nofun, nofun⟩
  | ok b =>
    show (.ok b : Except φ α) = .ok a ↔ (.ok b : Except ε α) = .ok a
    simp

theorem mapError_eq_error_iff {x : Except ε α} {r : ε → φ} {e : φ} :
    x.mapError r = .error e ↔ ∃ cause, x = .error cause ∧ r cause = e := by
  cases x with
  | error cause =>
    show (.error (r cause) : Except φ α) = .error e ↔ _
    simp
  | ok a => exact ⟨nofun, nofun⟩

def traverse (f : α → Except ε β) : List α → Except ε (List β)
  | [] => .ok []
  | a :: as =>
    match f a with
    | .error e => .error e
    | .ok b =>
      match traverse f as with
      | .error e => .error e
      | .ok bs => .ok (b :: bs)

theorem traverse_cons (f : α → Except ε β) (a : α) (as : List α) :
    traverse f (a :: as) = f a >>= fun b => (traverse f as).map fun bs => b :: bs := by
  cases hf : f a with
  | error e => simp [traverse, hf, bind, Except.bind]
  | ok b => cases ht : traverse f as <;> simp [traverse, hf, ht, bind, Except.bind, Except.map]

theorem traverse_cons_eq_ok_iff {f : α → Except ε β} {a : α} {as : List α} {bs : List β} :
    traverse f (a :: as) = .ok bs ↔
      ∃ b rest, f a = .ok b ∧ traverse f as = .ok rest ∧ bs = b :: rest := by
  rw [traverse_cons]
  simp only [bind_eq_ok_iff, map_eq_ok_iff, eq_comm (a := bs), exists_and_left]

theorem traverse_eq_ok_iff {f : α → Except ε β} {as : List α} {bs : List β} :
    traverse f as = .ok bs ↔ as.map f = bs.map .ok := by
  induction as generalizing bs with
  | nil => cases bs <;> simp [traverse]
  | cons a as ih =>
    cases hf : f a with
    | error e => cases bs <;> simp [traverse, hf]
    | ok b =>
      cases ht : traverse f as with
      | error e =>
        cases bs with
        | nil => simp [traverse, hf, ht]
        | cons c bs =>
          have none : ¬ as.map f = bs.map .ok := fun h => by simp [ih.2 h] at ht
          simp [traverse, hf, ht, none]
      | ok cs =>
        cases bs with
        | nil => simp [traverse, hf, ht]
        | cons c bs =>
          have rest : cs = bs ↔ as.map f = bs.map .ok := by rw [← ih, ht]; simp
          simp [traverse, hf, ht, rest]

theorem traverse_eq_error_iff {f : α → Except ε β} {as : List α} {e : ε} :
    traverse f as = .error e ↔
      ∃ (done : List α) (a : α) (rest : List α) (bs : List β), as = done ++ a :: rest ∧
        done.map f = bs.map .ok ∧ f a = .error e := by
  constructor
  · intro h
    induction as with
    | nil => simp [traverse] at h
    | cons a as ih =>
      cases hf : f a with
      | error e' =>
        have same : e' = e := by simpa [traverse, hf] using h
        exact ⟨[], a, as, [], rfl, rfl, same ▸ hf⟩
      | ok b =>
        cases ht : traverse f as with
        | error e' =>
          have same : e' = e := by simpa [traverse, hf, ht] using h
          obtain ⟨done, x, rest, bs, split, good, bad⟩ := ih (same ▸ ht)
          exact ⟨a :: done, x, rest, b :: bs, by simp [split], by simp [good, hf], bad⟩
        | ok bs => simp [traverse, hf, ht] at h
  · rintro ⟨done, a, rest, bs, rfl, good, bad⟩
    induction done generalizing bs with
    | nil => simp [traverse, bad]
    | cons d done ih =>
      cases bs with
      | nil => simp at good
      | cons b bs =>
        have parts : f d = .ok b ∧ done.map f = bs.map .ok := by simpa using good
        simp [traverse, parts.1, ih bs parts.2]

theorem traverse_passes_iff {f : α → Except ε β} {as : List α} :
    (∃ bs, traverse f as = .ok bs) ↔ ∀ a ∈ as, ∃ b, f a = .ok b := by
  induction as with
  | nil => simp [traverse]
  | cons a as ih =>
    rw [List.forall_mem_cons, ← ih, traverse_cons]
    cases hf : f a with
    | error e => simp [bind, Except.bind]
    | ok b => cases ht : traverse f as <;> simp [bind, Except.bind, Except.map]

theorem exists_mem_of_traverse_error {f : α → Except ε β} {as : List α} {e : ε}
    (h : traverse f as = .error e) : ∃ a ∈ as, f a = .error e := by
  obtain ⟨done, a, rest, bs, rfl, -, bad⟩ := traverse_eq_error_iff.1 h
  exact ⟨a, by simp, bad⟩

theorem exists_mem_of_traverse {f : α → Except ε β} {as : List α} {bs : List β}
    (h : traverse f as = .ok bs) {b : β} (hb : b ∈ bs) : ∃ a ∈ as, f a = .ok b := by
  have good : Except.ok b ∈ as.map f := by
    rw [traverse_eq_ok_iff.1 h]
    exact List.mem_map_of_mem hb
  exact List.mem_map.1 good

theorem map_of_traverse {f : α → Except ε β} {g : α → γ} {k : β → γ}
    (step : ∀ a b, f a = .ok b → k b = g a) {as : List α} {bs : List β}
    (h : traverse f as = .ok bs) : bs.map k = as.map g := by
  induction as generalizing bs with
  | nil =>
    have none : [] = bs := by simpa [traverse] using h
    rw [← none]
    rfl
  | cons a as ih =>
    obtain ⟨b, rest, here, there, rfl⟩ := traverse_cons_eq_ok_iff.1 h
    rw [List.map_cons, List.map_cons, step a b here, ih there]

theorem length_of_traverse {f : α → Except ε β} {as : List α} {bs : List β}
    (h : traverse f as = .ok bs) : bs.length = as.length := by
  have same := congrArg List.length (traverse_eq_ok_iff.1 h)
  simpa using same.symm

end FieldMapping
