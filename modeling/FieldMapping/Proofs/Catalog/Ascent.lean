import FieldMapping.Proofs.Catalog.Lineage
import Mathlib.Data.Fintype.Card
import Mathlib.Data.List.TakeWhile

/-! Resolving step by step, with a stack of the types that wait for their parents. On the
way up a type without a layout goes on the stack, on the way down the last one leaves it
and keeps its layer. The stack never holds a type twice, so it is no higher than there are
types; the way ends, as the recursion does, after at most two steps for each of them, and
the types that it gave a layout are those of the line below the first that had one. -/

namespace FieldMapping.Catalog
variable {ρ : Type} {n : Nat}

inductive Turn (ρ : Type) (n : Nat) where
  | up (e : Fin n)
  | down (parent : Option (Layout ρ))

structure Ascent (ρ : Type) (n : Nat) where
  waiting : List (Fin n)
  catalog : Catalog ρ n
  turn : Turn ρ n

namespace Ascent

/-- On the way down the type on top is looked up once more before it gets its layer.
Nothing happens any more once an answer meets an empty stack. -/
def step (h : Hierarchy ρ n) (a : Ascent ρ n) : Option (Ascent ρ n) :=
  match a.turn with
  | .up e =>
    match a.catalog.resolved e with
    | some l => some { a with turn := .down (some l) }
    | none =>
      match h.parent e with
      | some p =>
        if (e :: a.waiting).contains p then some ⟨e :: a.waiting, a.catalog, .down none⟩
        else some ⟨e :: a.waiting, a.catalog, .up p⟩
      | none => some ⟨e :: a.waiting, a.catalog, .down none⟩
  | .down parent =>
    match a.waiting with
    | [] => none
    | e :: rest =>
      match a.catalog.resolved e with
      | some l => some ⟨rest, a.catalog, .down (some l)⟩
      | none =>
        let l := a.catalog.ownLayer h e parent
        some ⟨rest, a.catalog.keep e l, .down (some l)⟩

def steps (h : Hierarchy ρ n) : Nat → Ascent ρ n → Option (Ascent ρ n)
  | 0, a => some a
  | k + 1, a => (a.step h).bind (steps h k)

variable {h : Hierarchy ρ n}

theorem steps_add (j k : Nat) (a : Ascent ρ n) :
    a.steps h (j + k) = (a.steps h j).bind (steps h k) := by
  induction j generalizing a with
  | zero => simp [steps]
  | succ j ih =>
    rw [Nat.add_right_comm, steps, steps, Option.bind_assoc]
    exact congrArg _ (funext ih)

theorem steps_one (a : Ascent ρ n) : a.steps h 1 = a.step h := by
  cases hs : a.step h <;> simp [steps, hs]

structure Orderly (a : Ascent ρ n) : Prop where
  nodup : a.waiting.Nodup
  unresolved : ∀ d ∈ a.waiting, a.catalog.resolved d = none
  fresh : ∀ e, a.turn = .up e → e ∉ a.waiting

namespace Orderly

theorem push {a : Ascent ρ n} (orderly : a.Orderly) {e : Fin n} (asked : a.turn = .up e)
    (unknown : a.catalog.resolved e = none) {turn : Turn ρ n}
    (next : ∀ p, turn = .up p → p ∉ e :: a.waiting) :
    Orderly ⟨e :: a.waiting, a.catalog, turn⟩ where
  nodup := List.nodup_cons.2 ⟨orderly.fresh e asked, orderly.nodup⟩
  unresolved := List.forall_mem_cons.2 ⟨unknown, orderly.unresolved⟩
  fresh := next

theorem pop {a : Ascent ρ n} (orderly : a.Orderly) {e : Fin n} {rest : List (Fin n)}
    (top : a.waiting = e :: rest) (l : Layout ρ) :
    Orderly ⟨rest, a.catalog.keep e l, .down (some l)⟩ := by
  have apart : e ∉ rest ∧ rest.Nodup := List.nodup_cons.1 (top ▸ orderly.nodup)
  refine ⟨apart.2, fun d hd => ?_, nofun⟩
  have other : d ≠ e := fun same => apart.1 (same ▸ hd)
  have below : d ∈ a.waiting := top ▸ List.mem_cons_of_mem e hd
  exact (resolved_keep_of_ne a.catalog l other).trans (orderly.unresolved d below)

theorem step {a b : Ascent ρ n} (orderly : a.Orderly) (went : a.step h = some b) :
    b.Orderly := by
  unfold Ascent.step at went
  split at went
  · next e asked =>
    split at went
    · cases went
      exact ⟨orderly.nodup, orderly.unresolved, by simp⟩
    · next unknown =>
      split at went
      · next p _ =>
        split at went <;> cases went
        · exact orderly.push asked unknown (by simp)
        · next free =>
          refine orderly.push asked unknown ?_
          rintro q ⟨⟩
          rwa [List.contains_iff_mem] at free
      · cases went
        exact orderly.push asked unknown (by simp)
  · split at went
    · cases went
    · next e rest top =>
      have unknown := orderly.unresolved e (top ▸ List.mem_cons_self)
      rw [unknown] at went
      cases went
      exact orderly.pop top _

theorem steps {a b : Ascent ρ n} (orderly : a.Orderly) {k : Nat}
    (went : a.steps h k = some b) : b.Orderly := by
  induction k generalizing a with
  | zero =>
    cases went
    exact orderly
  | succ k ih =>
    obtain ⟨next, first, rest⟩ := Option.bind_eq_some_iff.1 went
    exact ih (orderly.step first) rest

end Orderly

theorem step_down {waiting : List (Fin n)} {c : Catalog ρ n} {e : Fin n}
    (unresolved : c.resolved e = none) (parent : Option (Layout ρ)) :
    step h ⟨e :: waiting, c, .down parent⟩ =
      some ⟨waiting, c.keep e (c.ownLayer h e parent), .down (some (c.ownLayer h e parent))⟩ := by
  simp [step, unresolved]

/-- The way up and down over the line of a type is what the recursion computes. -/
theorem exists_steps_resolveFrom (c : Catalog ρ n) (e : Fin n) (visiting : List (Fin n))
    (fresh : e ∉ visiting) : ∃ k ≤ 2 * unvisited visiting + 1,
      steps h k ⟨visiting, c, .up e⟩ =
        some ⟨visiting, (resolveFrom h c e visiting fresh).2,
          .down (some (resolveFrom h c e visiting fresh).1)⟩ := by
  fun_induction resolveFrom h c e visiting fresh with
  | case1 e visiting fresh l known =>
    refine ⟨1, by omega, ?_⟩
    rw [steps_one]
    simp [step, known]
  | case2 e visiting fresh unresolved root l =>
    have room := unvisited_cons_lt fresh
    refine ⟨1 + 1, by omega, ?_⟩
    have up : step h ⟨visiting, c, .up e⟩ = some ⟨e :: visiting, c, .down none⟩ := by
      simp [step, unresolved, root]
    rw [steps_add, steps_one, up, Option.bind_some, steps_one, step_down unresolved]
  | case3 e visiting fresh unresolved p child cut l =>
    have room := unvisited_cons_lt fresh
    refine ⟨1 + 1, by omega, ?_⟩
    have up : step h ⟨visiting, c, .up e⟩ = some ⟨e :: visiting, c, .down none⟩ := by
      simp only [step, unresolved, child, if_pos (List.contains_iff_mem.2 cut)]
    rw [steps_add, steps_one, up, Option.bind_some, steps_one, step_down unresolved]
  | case4 e visiting fresh unresolved p child free above c' found l ih =>
    have room := unvisited_cons_lt fresh
    obtain ⟨k, few, parent⟩ := ih
    have gave := gave_resolveFrom h c p (e :: visiting) free
    rw [found] at parent gave
    have still : c'.resolved e = none := by
      rw [gave.untouched e List.mem_cons_self, unresolved]
    have up : step h ⟨visiting, c, .up e⟩ = some ⟨e :: visiting, c, .up p⟩ := by
      simp only [step, unresolved, child, List.contains_iff_mem, if_neg free]
    refine ⟨1 + (k + 1), by omega, ?_⟩
    rw [steps_add, steps_one, up, Option.bind_some, steps_add, parent, Option.bind_some, steps_one,
      step_down still]

end Ascent

variable {h : Hierarchy ρ n}

/-- The types of a line before the first that has a layout already. -/
def unresolvedFront (c : Catalog ρ n) (line : List (Fin n)) : List (Fin n) :=
  line.takeWhile fun d => !c.isResolved d

theorem unresolvedFront_of_resolved {c : Catalog ρ n} {e : Fin n} {l : Layout ρ}
    (known : c.resolved e = some l) (line : List (Fin n)) :
    c.unresolvedFront (e :: line) = [] := by
  simp [unresolvedFront, isResolved, known]

theorem unresolvedFront_of_unresolved {c : Catalog ρ n} {e : Fin n}
    (unresolved : c.resolved e = none) (line : List (Fin n)) :
    c.unresolvedFront (e :: line) = e :: c.unresolvedFront line := by
  simp [unresolvedFront, isResolved, unresolved]

theorem resolved_of_mem_unresolvedFront {c : Catalog ρ n} {line : List (Fin n)} {d : Fin n}
    (hd : d ∈ c.unresolvedFront line) : c.resolved d = none := by
  simpa [isResolved] using List.mem_takeWhile_imp hd

theorem exists_resolved_resolveFrom (c : Catalog ρ n) (e : Fin n) (visiting : List (Fin n))
    (fresh : e ∉ visiting) (d : Fin n) :
    (∃ l, (resolveFrom h c e visiting fresh).2.resolved d = some l) ↔
      d ∈ c.unresolvedFront (h.lineFrom e visiting) ∨ ∃ l, c.resolved d = some l := by
  fun_induction resolveFrom h c e visiting fresh with
  | case1 e visiting fresh l known =>
    have line : ∃ line, h.lineFrom e visiting = e :: line := by
      rw [Hierarchy.lineFrom, dif_neg fresh]
      split <;> exact ⟨_, rfl⟩
    obtain ⟨line, first⟩ := line
    simp [first, unresolvedFront_of_resolved known]
  | case2 e visiting fresh unresolved root l =>
    rw [exists_resolved_keep, Hierarchy.lineFrom_root fresh root,
      unresolvedFront_of_unresolved unresolved]
    simp [unresolvedFront]
  | case3 e visiting fresh unresolved p child cut l =>
    rw [exists_resolved_keep, Hierarchy.lineFrom_child fresh child, Hierarchy.lineFrom_of_seen cut,
      unresolvedFront_of_unresolved unresolved]
    simp [unresolvedFront]
  | case4 e visiting fresh unresolved p child free above c' found l ih =>
    rw [found] at ih
    rw [exists_resolved_keep, Hierarchy.lineFrom_child fresh child,
      unresolvedFront_of_unresolved unresolved, List.mem_cons, ih, or_assoc]

/-- Resolving a type comes to an end, never asks a type that waits, and leaves behind the
layouts that were kept before and one for each type of the line it had to climb. -/
theorem resolve_climbs_line (h : Hierarchy ρ n) (c : Catalog ρ n) (e : Fin n) :
    (∃ k ≤ 2 * n + 1, ∃ last : Ascent ρ n, Ascent.steps h k ⟨[], c, .up e⟩ = some last ∧
      last = ⟨[], (c.resolve h e).2, .down (some (c.resolve h e).1)⟩ ∧ last.step h = none) ∧
    (∀ k (a : Ascent ρ n), Ascent.steps h k ⟨[], c, .up e⟩ = some a →
      a.waiting.Nodup ∧ a.waiting.length ≤ n) ∧
    (∀ d, (c.resolved d = none ∧ ∃ l, (c.resolve h e).2.resolved d = some l) ↔
      d ∈ c.unresolvedFront (h.lineage e)) ∧
    (c.resolve h e).2.resolved e = some (c.resolve h e).1 ∧
    ∀ d l, c.resolved d = some l → (c.resolve h e).2.resolved d = some l := by
  have gave := gave_resolve h c e
  refine ⟨?_, fun k a went => ?_, fun d => ?_, gave.known, gave.kept⟩
  · obtain ⟨k, few, ends⟩ := Ascent.exists_steps_resolveFrom (h := h) c e [] List.not_mem_nil
    have all : unvisited ([] : List (Fin n)) = n := by simp [unvisited]
    rw [all] at few
    exact ⟨k, few, _, ends, rfl, rfl⟩
  · have start : Ascent.Orderly (⟨[], c, .up e⟩ : Ascent ρ n) := ⟨List.nodup_nil, nofun, nofun⟩
    have orderly := start.steps went
    have size := orderly.nodup.length_le_card
    rw [Fintype.card_fin] at size
    exact ⟨orderly.nodup, size⟩
  · have after := exists_resolved_resolveFrom (h := h) c e [] List.not_mem_nil d
    constructor
    · rintro ⟨unresolved, now⟩
      refine (after.1 now).resolve_right ?_
      rintro ⟨l, known⟩
      simp [unresolved] at known
    · intro climbed
      exact ⟨resolved_of_mem_unresolvedFront climbed, after.2 (.inl climbed)⟩

theorem resolve_climbs_line_into_loop :
    let c := run entangled empty [.resolve 8]
    (∃ a, Ascent.steps entangled 3 ⟨[], c, .up 7⟩ = some a ∧ a.waiting = [6, 5, 7] ∧
      a.waiting.Nodup ∧ a.waiting.length ≤ 9) ∧
    (∃ k ≤ 19, ∃ last, Ascent.steps entangled k ⟨[], c, .up 7⟩ = some last ∧
      last.step entangled = none) ∧
    (∀ d, (c.resolved d = none ∧ ∃ l, (c.resolve entangled 7).2.resolved d = some l) ↔
      d ∈ [7, 5, 6]) ∧
    (c.resolve entangled 7).2.resolved 8 = c.resolved 8 := by
  intro c
  obtain ⟨⟨k, few, last, ends, -, still⟩, stack, climbed, -, kept⟩ :=
    resolve_climbs_line entangled c 7
  have line : c.unresolvedFront (entangled.lineage 7) = [7, 5, 6] := by decide +kernel
  have top : (Ascent.steps entangled 3 ⟨[], c, .up 7⟩).map Ascent.waiting = some [6, 5, 7] := by
    decide +kernel
  obtain ⟨a, went, waiting⟩ := Option.map_eq_some_iff.1 top
  obtain ⟨l, self⟩ : ∃ l, c.resolved 8 = some l :=
    Option.isSome_iff_exists.1 (by decide +kernel)
  rw [line] at climbed
  exact ⟨⟨a, went, waiting, stack 3 a went⟩, ⟨k, few, last, ends, still⟩, climbed,
    (kept 8 l self).trans self.symm⟩

end FieldMapping.Catalog
