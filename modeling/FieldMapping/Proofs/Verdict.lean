import FieldMapping.Traverse

/-! Two checks side by side. They agree when both pass or both fail with failures
that correspond; what they compute on the way does not matter. Checks that agree
step by step agree as sequences and over lists, so the first failure of the one is
met where the first failure of the other is. -/

namespace FieldMapping

variable {α β γ δ ε φ : Type} {R : ε → φ → Prop}

theorem bind_ok_eq_map (x : Except ε α) (f : α → β) : (x >>= fun a => .ok (f a)) = x.map f := by
  cases x <;> rfl

inductive Agree (R : ε → φ → Prop) : Except ε α → Except φ β → Prop
  | pass (a : α) (b : β) : Agree R (.ok a) (.ok b)
  | fail {e : ε} {f : φ} (same : R e f) : Agree R (.error e) (.error f)

namespace Agree

theorem pass_iff {x : Except ε α} {y : Except φ β} (h : Agree R x y) :
    (∃ a, x = .ok a) ↔ ∃ b, y = .ok b := by
  cases h with
  | pass a b => simp
  | fail same => simp

theorem map_left {x : Except ε α} {y : Except φ β} (h : Agree R x y) (f : α → γ) :
    Agree R (x.map f) y := by
  cases h with
  | pass a b => exact .pass (f a) b
  | fail same => exact .fail same

theorem map_right {x : Except ε α} {y : Except φ β} (h : Agree R x y) (g : β → δ) :
    Agree R x (y.map g) := by
  cases h with
  | pass a b => exact .pass a (g b)
  | fail same => exact .fail same

theorem bind {x : Except ε α} {y : Except φ β} {f : α → Except ε γ} {g : β → Except φ δ}
    (h : Agree R x y) (next : ∀ a b, x = .ok a → y = .ok b → Agree R (f a) (g b)) :
    Agree R (x >>= f) (y >>= g) := by
  cases h with
  | pass a b => exact next a b rfl rfl
  | fail same => exact .fail same

theorem mapError {x : Except ε α} {r : ε → φ} (h : ∀ e, x = .error e → R e (r e)) :
    Agree R x (x.mapError r) := by
  cases x with
  | ok a => exact .pass a a
  | error e => exact .fail (h e rfl)

theorem traverse {f : α → Except ε β} {g : α → Except φ γ} {as : List α}
    (each : ∀ a ∈ as, Agree R (f a) (g a)) :
    Agree R (FieldMapping.traverse f as) (FieldMapping.traverse g as) := by
  induction as with
  | nil => exact .pass [] []
  | cons a as ih =>
    have first := each a List.mem_cons_self
    have rest := ih fun b hb => each b (List.mem_cons_of_mem a hb)
    rw [traverse_cons, traverse_cons]
    exact first.bind fun b c _ _ => (rest.map_left _).map_right _

end Agree

end FieldMapping
