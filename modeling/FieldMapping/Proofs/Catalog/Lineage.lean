import FieldMapping.Proofs.Catalog.Cache

/-! What resolving a type gives, in any family of types. The parent chain of a type is
cut where it first repeats a type, and the layout is made of the layers on that chain,
the oldest first. Only loops of several types make it matter what was resolved before:
the first type that leads into a loop closes it at one place, the types of the loop keep
the layouts that they get on the way, and the loop stays closed there for all others. -/

namespace FieldMapping

namespace Catalog
variable {ρ : Type} {n : Nat} {h : Hierarchy ρ n}

open Hierarchy (upTo)

/-- The layers of a line of types on top of each other, the last type at the base. -/
def layered (h : Hierarchy ρ n) (c : Catalog ρ n) : List (Fin n) → Option (Layout ρ)
  | [] => none
  | e :: line => some (c.ownLayer h e (layered h c line))

theorem layered_congr {c c' : Catalog ρ n} {line : List (Fin n)}
    (same : ∀ d ∈ line, c'.registered d = c.registered d) :
    c'.layered h line = c.layered h line := by
  induction line with
  | nil => rfl
  | cons e line ih =>
    rw [layered, layered, ih fun d hd => same d (List.mem_cons_of_mem e hd), ownLayer, ownLayer,
      same e List.mem_cons_self]

theorem layered_keep (c : Catalog ρ n) (e : Fin n) (l : Layout ρ) (line : List (Fin n)) :
    (c.keep e l).layered h line = c.layered h line :=
  layered_congr fun _ _ => rfl

theorem made_of_layered {c : Catalog ρ n} {line : List (Fin n)} {l : Layout ρ}
    (layers : c.layered h line = some l) : l.Made := by
  induction line generalizing l with
  | nil => simp [layered] at layers
  | cons e line ih =>
    cases Option.some.inj layers
    cases above : c.layered h line with
    | none => exact .base _ _
    | some m => exact .child (ih above) _ _

/-- The fields of a line of types, those of its last and oldest type first. -/
def lineFields (h : Hierarchy ρ n) (c : Catalog ρ n) (line : List (Fin n)) :
    List (String × Field ρ) :=
  line.reverse.flatMap (c.ownFields h)

theorem lineFields_cons (c : Catalog ρ n) (e : Fin n) (line : List (Fin n)) :
    c.lineFields h (e :: line) = c.lineFields h line ++ c.ownFields h e := by
  simp [lineFields]

theorem fields_of_layered {c : Catalog ρ n} {line : List (Fin n)} {l : Layout ρ}
    (layers : c.layered h line = some l) :
    l.fields = Assoc.putAll [] (c.lineFields h line) := by
  induction line generalizing l with
  | nil => simp [layered] at layers
  | cons e line ih =>
    rw [lineFields_cons, Assoc.putAll_append]
    cases Option.some.inj layers
    rw [ownLayer, Layout.fields_layer fun m above => (made_of_layered above).tabled.toPlaced]
    cases above : c.layered h line with
    | none =>
      have first : line = [] := by cases line <;> simp_all [layered]
      subst first
      rfl
    | some m =>
      have base : m.fields = _ := ih above
      exact congrArg (fun r => Assoc.putAll r (c.ownFields h e)) base

theorem reflects_of_layered {c : Catalog ρ n} {line : List (Fin n)} {l : Layout ρ}
    (layers : c.layered h line = some l) : l.Reflects (c.lineFields h line) :=
  (made_of_layered layers).tabled.reflects (fields_of_layered layers)

theorem exists_resolved_keep {c : Catalog ρ n} {e : Fin n} (l : Layout ρ) {d : Fin n} :
    (∃ m, (c.keep e l).resolved d = some m) ↔ d = e ∨ ∃ m, c.resolved d = some m := by
  by_cases same : d = e
  · subst same
    simp
  · simp [resolved_keep_of_ne c l same, same]

structure Lined (h : Hierarchy ρ n) (c : Catalog ρ n) (cuts : List (Fin n)) : Prop where
  layouts : ∀ e l, c.resolved e = some l → some l = c.layered h (upTo cuts (h.lineage e))
  lines : ∀ e l, c.resolved e = some l →
    ∀ d ∈ upTo cuts (h.lineage e), ∃ m, c.resolved d = some m

theorem Lined.keep {c : Catalog ρ n} {cuts cuts' : List (Fin n)} {e : Fin n} {l : Layout ρ}
    (lined : Lined h c cuts)
    (before : ∀ d m, c.resolved d = some m →
      upTo cuts' (h.lineage d) = upTo cuts (h.lineage d))
    (layout : some l = c.layered h (upTo cuts' (h.lineage e)))
    (line : ∀ d ∈ upTo cuts' (h.lineage e), d = e ∨ ∃ m, c.resolved d = some m) :
    Lined h (c.keep e l) cuts' where
  layouts d m known := by
    rw [layered_keep]
    by_cases same : d = e
    · subst same
      have new : l = m := by simpa using known
      rw [← new, layout]
    · rw [resolved_keep_of_ne c l same] at known
      rw [before d m known]
      exact lined.layouts d m known
  lines d m known b hb := by
    rw [exists_resolved_keep]
    by_cases same : d = e
    · subst same
      exact line b hb
    · rw [resolved_keep_of_ne c l same] at known
      rw [before d m known] at hb
      exact .inr (lined.lines d m known b hb)

structure Closed (h : Hierarchy ρ n) (visiting : List (Fin n)) (c : Catalog ρ n)
    (cuts : List (Fin n)) : Prop extends Lined h c cuts where
  looped : ∀ b ∈ cuts, h.Looped b
  resolved : ∀ b ∈ cuts, ∃ l, c.resolved b = some l
  around : ∀ b ∈ cuts, ∀ d, h.SameLoop b d → d ∈ visiting ∨ ∃ l, c.resolved d = some l
  once : ∀ a ∈ cuts, ∀ b ∈ cuts, h.SameLoop a b → a = b
  entered : ∀ d, h.Looped d → (∃ l, c.resolved d = some l) → ∃ b ∈ cuts, h.SameLoop b d

theorem closed_empty (h : Hierarchy ρ n) : Closed h [] empty [] where
  toLined := by constructor <;> simp [empty]
  looped := by simp
  resolved := by simp
  around := by simp
  once := by simp
  entered := by simp [empty]

namespace Closed
variable {c : Catalog ρ n} {cuts visiting : List (Fin n)} {e : Fin n}

theorem wait (closed : Closed h visiting c cuts) (e : Fin n) : Closed h (e :: visiting) c cuts :=
  { closed with
    around := fun b hb d loop =>
      (closed.around b hb d loop).imp_left (List.mem_cons_of_mem e) }

theorem not_mem_cuts (closed : Closed h visiting c cuts) (unresolved : c.resolved e = none) :
    e ∉ cuts := by
  intro he
  obtain ⟨l, known⟩ := closed.resolved e he
  simp [unresolved] at known

theorem keep (closed : Closed h (e :: visiting) c cuts) {l : Layout ρ}
    (layout : some l = c.layered h (upTo cuts (h.lineage e)))
    (line : ∀ d ∈ upTo cuts (h.lineage e), d = e ∨ ∃ m, c.resolved d = some m)
    (entered : h.Looped e → ∃ b ∈ cuts, h.SameLoop b e) :
    Closed h visiting (c.keep e l) cuts where
  toLined := closed.toLined.keep (fun _ _ _ => rfl) layout line
  looped := closed.looped
  resolved b hb := (exists_resolved_keep l).2 (.inr (closed.resolved b hb))
  around b hb d loop := by
    rw [exists_resolved_keep]
    rcases closed.around b hb d loop with waiting | known
    · exact (List.mem_cons.1 waiting).elim (fun same => .inr (.inl same)) .inl
    · exact .inr (.inr known)
  once := closed.once
  entered d looped known := by
    rcases (exists_resolved_keep l).1 known with rfl | known
    · exact entered looped
    · exact closed.entered d looped known

theorem close (closed : Closed h visiting c cuts) (fresh : e ∉ visiting)
    (unresolved : c.resolved e = none) (looped : h.Looped e)
    (loop : ∀ d, h.SameLoop e d → d ∈ e :: visiting) :
    Closed h visiting (c.keep e (c.ownLayer h e none)) (e :: cuts) where
  toLined := by
    have own : upTo (e :: cuts) (h.lineage e) = [e] := by
      obtain ⟨line, lineage⟩ := h.exists_lineage e
      simp [lineage, upTo]
    refine closed.toLined.keep (fun d m known => ?_) (by rw [own]; rfl) (by simp [own])
    -- `e` was not resolved, so no kept layout has its layer and no line goes through it
    refine Hierarchy.upTo_cons_of_not_mem fun through => ?_
    obtain ⟨m, known⟩ := closed.lines d m known e through
    simp [unresolved] at known
  looped b hb := by
    rcases List.mem_cons.1 hb with rfl | hb
    · exact looped
    · exact closed.looped b hb
  resolved b hb := by
    rw [exists_resolved_keep]
    exact (List.mem_cons.1 hb).imp_right (closed.resolved b)
  around b hb d same := by
    rw [exists_resolved_keep]
    rcases List.mem_cons.1 hb with rfl | hb
    · exact (List.mem_cons.1 (loop d same)).elim (fun same => .inr (.inl same)) .inl
    · exact (closed.around b hb d same).imp_right .inr
  once a ha b hb same := by
    have apart : ∀ b ∈ cuts, ¬ h.SameLoop b e := by
      intro b hb loop
      rcases closed.around b hb e loop with waiting | ⟨m, known⟩
      · exact fresh waiting
      · simp [unresolved] at known
    rcases List.mem_cons.1 ha with rfl | olderA <;> rcases List.mem_cons.1 hb with rfl | olderB
    · rfl
    · exact absurd same.symm (apart b olderB)
    · exact absurd same (apart a olderA)
    · exact closed.once a olderA b olderB same
  entered d inLoop known := by
    rcases (exists_resolved_keep _).1 known with rfl | known
    · exact ⟨d, List.mem_cons_self, looped.sameLoop⟩
    · obtain ⟨b, hb, same⟩ := closed.entered d inLoop known
      exact ⟨b, List.mem_cons_of_mem e hb, same⟩

theorem add (closed : Closed h visiting c cuts) {property : String}
    (isOpen : c.Open h e property) (field : Field ρ) :
    Closed h visiting (c.add e property field) cuts :=
  { closed with
    layouts := fun d l known => by
      rw [layered_congr fun b hb => ?_]
      · exact closed.layouts d l known
      · refine updateAt_of_ne _ _ ?_
        rintro rfl
        obtain ⟨m, resolved⟩ := closed.lines d l known b hb
        simp [isOpen.unresolved] at resolved }

end Closed

structure Waiting (h : Hierarchy ρ n) (c : Catalog ρ n) (e : Fin n) (visiting : List (Fin n)) :
    Prop where
  unresolved : ∀ d ∈ visiting, c.resolved d = none
  below : ∀ d ∈ visiting, h.Ancestor e d
  parents : ∀ d ∈ visiting, ∃ p ∈ e :: visiting, h.parent d = some p

namespace Waiting
variable {c : Catalog ρ n} {cuts visiting : List (Fin n)} {e p : Fin n}

theorem up (waiting : Waiting h c e visiting) (unresolved : c.resolved e = none)
    (child : h.parent e = some p) : Waiting h c p (e :: visiting) where
  unresolved d hd := by
    rcases List.mem_cons.1 hd with rfl | hd
    · exact unresolved
    · exact waiting.unresolved d hd
  below d hd := by
    rcases List.mem_cons.1 hd with rfl | hd
    · exact .parent child
    · exact (Hierarchy.Ancestor.parent child).trans (waiting.below d hd)
  parents d hd := by
    rcases List.mem_cons.1 hd with rfl | hd
    · exact ⟨p, List.mem_cons_self, child⟩
    · obtain ⟨q, hq, parent⟩ := waiting.parents d hd
      exact ⟨q, List.mem_cons_of_mem p hq, parent⟩

theorem ancestors (waiting : Waiting h c e visiting) (child : h.parent e = some p)
    (onTheWay : p ∈ e :: visiting) {a d : Fin n} (hd : d ∈ e :: visiting)
    (above : h.Ancestor a d) : a ∈ e :: visiting := by
  have parent : ∀ d ∈ e :: visiting, ∀ q, h.parent d = some q → q ∈ e :: visiting := by
    intro d hd q direct
    rcases List.mem_cons.1 hd with rfl | hd
    · cases child.symm.trans direct
      exact onTheWay
    · obtain ⟨r, hr, other⟩ := waiting.parents d hd
      cases other.symm.trans direct
      exact hr
  induction above with
  | parent direct => exact parent _ hd _ direct
  | beyond direct _ ih => exact ih (parent _ hd _ direct)

theorem looped (waiting : Waiting h c e visiting) (fresh : e ∉ visiting)
    (child : h.parent e = some p) (onTheWay : p ∈ visiting) : h.Looped e := by
  refine ⟨(waiting.below p onTheWay).trans (.parent child), fun self => ?_⟩
  cases child.symm.trans self
  exact fresh onTheWay

end Waiting

namespace Closed
variable {cuts : List (Fin n)}

theorem resolveFrom_fst {c : Catalog ρ n} {e : Fin n} {visiting : List (Fin n)}
    (closed : Closed h visiting c cuts) (waiting : Waiting h c e visiting) (fresh : e ∉ visiting) :
    some (resolveFrom h c e visiting fresh).1 =
      c.layered h (upTo cuts (h.lineFrom e visiting)) := by
  fun_induction resolveFrom h c e visiting fresh with
  | case1 e visiting fresh l known =>
    have same : upTo cuts (h.lineFrom e visiting) = upTo cuts (h.lineage e) := by
      refine Hierarchy.upTo_lineFrom cuts visiting (by simp) fun d hd waits => ?_
      obtain ⟨m, resolved⟩ := closed.lines e l known d hd
      simp [waiting.unresolved d waits] at resolved
    rw [same]
    exact closed.layouts e l known
  | case2 e visiting fresh unresolved root l =>
    rw [Hierarchy.lineFrom_root fresh root]
    simp [upTo, layered, l]
  | case3 e visiting fresh unresolved p child cut l =>
    rw [Hierarchy.lineFrom_child fresh child, Hierarchy.lineFrom_of_seen cut]
    simp [upTo, layered, l]
  | case4 e visiting fresh unresolved p child free above c' found l ih =>
    have gave := gave_resolveFrom h c p (e :: visiting) free
    have parent := ih (closed.wait e) (waiting.up unresolved child)
    rw [found] at gave parent
    rw [Hierarchy.lineFrom_child fresh child, upTo, if_neg (closed.not_mem_cuts unresolved),
      layered, ← parent]
    have same : c'.registered = c.registered := gave.registered
    simp only [l, ownLayer, same]

theorem resolveFrom {c : Catalog ρ n} {e : Fin n} {visiting : List (Fin n)}
    (closed : ∃ cuts, Closed h visiting c cuts) (waiting : Waiting h c e visiting)
    (fresh : e ∉ visiting) :
    ∃ cuts, Closed h visiting (Catalog.resolveFrom h c e visiting fresh).2 cuts := by
  fun_induction Catalog.resolveFrom h c e visiting fresh with
  | case1 e visiting fresh l known => exact closed
  | case2 e visiting fresh unresolved root l =>
    obtain ⟨cuts, closed⟩ := closed
    have line : h.lineage e = [e] := Hierarchy.lineFrom_root List.not_mem_nil root
    refine ⟨cuts, (closed.wait e).keep ?_ ?_ fun looped => ?_⟩
    · simp [line, upTo, layered, l]
    · simp [line, upTo]
    · obtain ⟨p, child⟩ := looped.1.exists_parent
      simp [root] at child
  | case3 e visiting fresh unresolved p child cut l =>
    obtain ⟨cuts, closed⟩ := closed
    by_cases self : p = e
    · subst self
      have line : h.lineage p = [p] := by
        rw [Hierarchy.lineage, Hierarchy.lineFrom_child List.not_mem_nil child,
          Hierarchy.lineFrom_of_seen List.mem_cons_self]
      refine ⟨cuts, (closed.wait p).keep ?_ ?_ fun looped => ?_⟩
      · simp [line, upTo, layered, l]
      · simp [line, upTo]
      · exact absurd child looped.2
    · have onTheWay : p ∈ visiting := (List.mem_cons.1 cut).resolve_left self
      refine ⟨e :: cuts, closed.close fresh unresolved
        (waiting.looped fresh child onTheWay) fun d loop => ?_⟩
      exact waiting.ancestors child cut List.mem_cons_self loop.2
  | case4 e visiting fresh unresolved p child free above c' found l ih =>
    have gave := gave_resolveFrom h c p (e :: visiting) free
    obtain ⟨cuts, before⟩ := closed
    obtain ⟨cuts, closed⟩ := ih ⟨cuts, before.wait e⟩ (waiting.up unresolved child)
    rw [found] at gave closed
    have still : c'.resolved e = none := by
      rw [gave.untouched e List.mem_cons_self, unresolved]
    -- the parent's line is resolved, so `e` is not on it and stands before it as a whole
    have line : upTo cuts (h.lineage e) = e :: upTo cuts (h.lineage p) := by
      have same : upTo cuts (h.lineFrom p [e]) = upTo cuts (h.lineage p) := by
        refine Hierarchy.upTo_lineFrom cuts [e] (by simp) fun d hd waits => ?_
        obtain ⟨m, resolved⟩ := closed.lines p above gave.known d hd
        rw [List.mem_singleton.1 waits] at resolved
        simp [still] at resolved
      rw [Hierarchy.lineage, Hierarchy.lineFrom_child List.not_mem_nil child, upTo,
        if_neg (closed.not_mem_cuts still), same]
    refine ⟨cuts, closed.keep ?_ (fun d hd => ?_) fun looped => ?_⟩
    · rw [line, layered, ← closed.layouts p above gave.known]
    · rw [line] at hd
      exact (List.mem_cons.1 hd).imp_right (closed.lines p above gave.known d)
    · have parent := looped.parent child
      obtain ⟨b, hb, loop⟩ := closed.entered p parent.1 ⟨above, gave.known⟩
      exact ⟨b, hb, loop.trans parent.2⟩

theorem resolve {c : Catalog ρ n} (closed : ∃ cuts, Closed h [] c cuts) (e : Fin n) :
    ∃ cuts, Closed h [] (c.resolve h e).2 cuts :=
  resolveFrom closed ⟨by simp, by simp, by simp⟩ List.not_mem_nil

theorem resolve_fst {c : Catalog ρ n} (closed : Closed h [] c cuts) (e : Fin n) :
    some (c.resolve h e).1 = c.layered h (upTo cuts (h.lineage e)) :=
  closed.resolveFrom_fst ⟨by simp, by simp, by simp⟩ List.not_mem_nil

theorem resolve_whole {c : Catalog ρ n} (closed : Closed h [] c cuts) {e : Fin n}
    (untouched : ∀ d ∈ h.lineage e, h.Looped d → c.resolved d = none) :
    some (c.resolve h e).1 = c.layered h (h.lineage e) := by
  rw [closed.resolve_fst, Hierarchy.upTo_eq_self fun d hd cut => ?_]
  obtain ⟨l, known⟩ := closed.resolved d cut
  simp [untouched d hd (closed.looped d cut)] at known

end Closed

variable [DecidableEq ρ] [Rule ρ]

theorem closed_of_reachable {c : Catalog ρ n} (reached : c.Reachable h) :
    ∃ cuts, Closed h [] c cuts := by
  obtain ⟨calls, rfl⟩ := reached
  refine run_keeps (P := fun c => ∃ cuts, Closed h [] c cuts) ?_ ?_ ⟨[], closed_empty h⟩ calls
  · rintro c e property field isOpen ⟨cuts, closed⟩
    exact ⟨cuts, closed.add isOpen field⟩
  · exact fun c e closed => Closed.resolve closed e

theorem exists_ownLayer_of_resolve {c : Catalog ρ n} (reached : c.Reachable h) (e : Fin n) :
    ∃ parent, (∀ l, parent = some l → l.Made) ∧ (c.resolve h e).1 = c.ownLayer h e parent := by
  obtain ⟨cuts, closed⟩ := closed_of_reachable reached
  have layers := closed.resolve_fst e
  obtain ⟨line, lineage⟩ := h.exists_lineage e
  -- where the lineage is cut does not matter, as no cut takes its first type away
  have first : ∃ rest, upTo cuts (e :: line) = e :: rest := by
    by_cases cut : e ∈ cuts <;> simp [upTo, cut]
  obtain ⟨rest, first⟩ := first
  rw [lineage, first, layered] at layers
  exact ⟨c.layered h rest, fun _ above => made_of_layered above, Option.some.inj layers⟩

theorem entity_resolve {c : Catalog ρ n} (reached : c.Reachable h) (e : Fin n) :
    (c.resolve h e).1.entity = h.name e := by
  obtain ⟨parent, -, layer⟩ := exists_ownLayer_of_resolve reached e
  rw [layer, ownLayer, Layout.entity_layer]

/-- A layout that is given out is made of the lineage of its type, up to the place where
the loop on it was closed, if it was; without that it is the same in any catalog with the
same fields registered. It has the fields of the types on that line, declared and
registered, those of the oldest type first. -/
theorem resolve_follows_lineage {c : Catalog ρ n} (reached : c.Reachable h) :
    (∃ cuts : List (Fin n), (∀ b ∈ cuts, h.Looped b ∧ ∃ l, c.resolved b = some l) ∧
      (∀ d, h.Looped d → (∃ l, c.resolved d = some l) → ∃ b ∈ cuts, h.SameLoop b d) ∧
      (∀ a ∈ cuts, ∀ b ∈ cuts, h.SameLoop a b → a = b) ∧
      ∀ e, some (c.resolve h e).1 = c.layered h (upTo cuts (h.lineage e)) ∧
        (c.resolve h e).1.entity = h.name e ∧
        (c.resolve h e).1.Reflects (c.lineFields h (upTo cuts (h.lineage e)))) ∧
    ∀ e, (∀ d ∈ h.lineage e, h.Looped d → c.resolved d = none) →
      some (c.resolve h e).1 = c.layered h (h.lineage e) ∧
      (c.resolve h e).1.Reflects (c.lineFields h (h.lineage e)) ∧
      ∀ c' : Catalog ρ n, c'.Reachable h → c'.registered = c.registered →
        (∀ d ∈ h.lineage e, h.Looped d → c'.resolved d = none) →
        (c'.resolve h e).1 = (c.resolve h e).1 := by
  obtain ⟨cuts, closed⟩ := closed_of_reachable reached
  refine ⟨⟨cuts, fun b hb => ⟨closed.looped b hb, closed.resolved b hb⟩,
    closed.entered, closed.once, fun e => ?_⟩, fun e untouched => ?_⟩
  · have layers := closed.resolve_fst e
    exact ⟨layers, entity_resolve reached e, reflects_of_layered layers.symm⟩
  · have whole := closed.resolve_whole untouched
    refine ⟨whole, reflects_of_layered whole.symm, fun c' reached' same untouched' => ?_⟩
    obtain ⟨cuts', closed'⟩ := closed_of_reachable reached'
    have whole' := closed'.resolve_whole untouched'
    rw [layered_congr fun d _ => congrFun same d, ← whole] at whole'
    exact Option.some.inj whole'

open Directory in
/-- The first two open types extend each other, the third extends the first, and the
fourth extends itself. -/
def entangled : Hierarchy StockRule 9 :=
  hierarchy [⟨[("a", .column "a")], find? "E1"⟩, ⟨[("b", .column "b")], find? "E0"⟩,
    ⟨[("c", .column "c")], find? "E0"⟩, ⟨[("d", .column "d")], find? "E3"⟩]

theorem resolve_follows_lineage_into_loop :
    let fresh := run entangled empty [.register 7 "x" (.column "x")]
    let c := run entangled empty
      [.register 7 "x" (.column "x"), .resolve 8, .resolve Directory.employee]
    c.Reachable entangled ∧
    (∀ d ∈ entangled.lineage 7, entangled.Looped d → c.resolved d = none) ∧
    some (c.resolve entangled 7).1 = c.layered entangled [7, 5, 6] ∧
    (c.resolve entangled 7).1.entity = "E2" ∧
    (c.resolve entangled 7).1.properties = ["b", "a", "c", "x"] ∧
    (c.resolve entangled 7).1.get? "x" = some (.column "x") ∧
    (fresh.resolve entangled 7).1 = (c.resolve entangled 7).1 := by
  intro fresh c
  have line : entangled.lineage 7 = [7, 5, 6] := by decide +kernel
  have untouched : ∀ d ∈ entangled.lineage 7, entangled.Looped d → c.resolved d = none :=
    fun d hd _ => (by decide +kernel : ∀ d ∈ entangled.lineage 7, c.resolved d = none) d hd
  obtain ⟨⟨cuts, -, -, -, given⟩, alone⟩ := resolve_follows_lineage (h := entangled) ⟨_, rfl⟩
  obtain ⟨layers, reflects, same⟩ := alone 7 untouched
  rw [line] at layers reflects
  refine ⟨⟨_, rfl⟩, untouched, layers, (given 7).2.1, reflects.order.trans (by decide +kernel),
    (reflects.field "x").trans (by decide +kernel), same fresh ⟨_, rfl⟩ ?_ fun d hd _ => ?_⟩
  · exact funext (by decide +kernel)
  · exact (by decide +kernel : ∀ d ∈ entangled.lineage 7, fresh.resolved d = none) d hd

/-- If the first type was resolved, the loop is closed above the second, which is then
without the fields of the first. -/
theorem resolve_after_loop :
    let c := run entangled empty [.resolve 5]
    c.Reachable entangled ∧ (empty : Catalog Directory.StockRule 9).Reachable entangled ∧
      c.registered = (empty : Catalog Directory.StockRule 9).registered ∧
      (c.resolve entangled 6).1.properties = ["b"] ∧
      (empty.resolve entangled 6).1.properties = ["a", "b"] ∧
      (c.resolve entangled 6).1 ≠ (empty.resolve entangled 6).1 ∧
      some (c.resolve entangled 6).1 ≠ c.layered entangled (entangled.lineage 6) :=
  ⟨⟨_, rfl⟩, ⟨[], rfl⟩, funext (by decide +kernel), by decide +kernel, by decide +kernel,
    by decide +kernel, by decide +kernel⟩

end Catalog

end FieldMapping
