import FieldMapping.Directory.Hierarchy
import FieldMapping.Proofs.Catalog.Ancestry
import FieldMapping.Proofs.Catalog.Resolution
import FieldMapping.Proofs.Catalog.Run
import FieldMapping.Proofs.Layout.Given

/-! Layouts that a catalog keeps are never out of date. Without cycles, the parent of
a resolved type is resolved, and the kept layout has the type's name and the fields that
the parent's layout has, with all that is declared and registered for the type by now
written over them. Fields that would change a kept layout are refused, so it stays. -/

namespace FieldMapping

namespace Catalog
variable {ρ : Type} {n : Nat} {h : Hierarchy ρ n}

structure Current (h : Hierarchy ρ n) (c : Catalog ρ n) : Prop where
  parents : ∀ e p l, c.resolved e = some l → h.parent e = some p → ∃ m, c.resolved p = some m
  layers : ∀ e l, c.resolved e = some l → l = c.ownLayer h e ((h.parent e).bind c.resolved)

theorem current_empty (h : Hierarchy ρ n) : Current h empty where
  parents _ _ _ known := by simp [empty] at known
  layers _ _ known := by simp [empty] at known

namespace Current

theorem ancestors {c : Catalog ρ n} (current : Current h c) {a e : Fin n} {l : Layout ρ}
    (known : c.resolved e = some l) (above : h.Ancestor a e) : ∃ m, c.resolved a = some m := by
  induction above generalizing l with
  | parent direct => exact current.parents _ _ l known direct
  | beyond direct _ ih =>
    obtain ⟨m, parent⟩ := current.parents _ _ l known direct
    exact ih parent

theorem add {c : Catalog ρ n} (current : Current h c) {e : Fin n} {property : String}
    (isOpen : c.Open h e property) (field : Field ρ) : Current h (c.add e property field) where
  parents := current.parents
  layers d l known := by
    have other : d ≠ e := by
      rintro rfl
      simp [Catalog.add, isOpen.unresolved] at known
    have same : (c.add e property field).registered d = c.registered d :=
      updateAt_of_ne _ _ other
    rw [ownLayer, same]
    exact current.layers d l known

theorem keep {c : Catalog ρ n} (current : Current h c) {e : Fin n}
    (unresolved : c.resolved e = none)
    (parent : ∀ p, h.parent e = some p → ∃ m, c.resolved p = some m) :
    Current h (c.keep e (c.ownLayer h e ((h.parent e).bind c.resolved))) := by
  generalize hl : c.ownLayer h e ((h.parent e).bind c.resolved) = l
  have stays : ∀ {d m}, c.resolved d = some m → (c.keep e l).resolved d = some m :=
    resolved_keep_of_resolved unresolved
  -- the parent of a type that is resolved already keeps its layout, so its child's stays right
  have above : ∀ d, (∀ p, h.parent d = some p → ∃ m, c.resolved p = some m) →
      (h.parent d).bind (c.keep e l).resolved = (h.parent d).bind c.resolved := by
    intro d parents
    cases hp : h.parent d with
    | none => rfl
    | some p =>
      obtain ⟨m, known⟩ := parents p hp
      exact (stays known).trans known.symm
  constructor
  · intro d p m known direct
    have resolved : ∃ m, c.resolved p = some m := by
      by_cases same : d = e
      · exact parent p (same ▸ direct)
      · rw [resolved_keep_of_ne c l same] at known
        exact current.parents d p m known direct
    obtain ⟨m', known'⟩ := resolved
    exact ⟨m', stays known'⟩
  · intro d m known
    by_cases same : d = e
    · subst same
      rw [above d parent]
      have mine : l = m := by simpa using known
      rw [← mine, ← hl]
      rfl
    · rw [resolved_keep_of_ne c l same] at known
      rw [above d fun p direct => current.parents d p m known direct]
      exact current.layers d m known

theorem resolveFrom (acyclic : h.Acyclic) {c : Catalog ρ n} (current : Current h c) (e : Fin n)
    (visiting : List (Fin n)) (fresh : e ∉ visiting) (below : ∀ d ∈ visiting, h.Ancestor e d) :
    Current h (Catalog.resolveFrom h c e visiting fresh).2 := by
  fun_induction Catalog.resolveFrom h c e visiting fresh with
  | case1 e visiting fresh l known => exact current
  | case2 e visiting fresh unresolved root l =>
    have kept := current.keep unresolved (by simp [root])
    rwa [root] at kept
  | case3 e visiting fresh unresolved p parent cut l =>
    -- a parent on the way would be below itself
    rcases List.mem_cons.1 cut with rfl | onTheWay
    · exact absurd (.parent parent) (acyclic p)
    · exact absurd ((Hierarchy.Ancestor.parent parent).trans (below p onTheWay)) (acyclic p)
  | case4 e visiting fresh unresolved p parent free above c' found l ih =>
    have lower : ∀ d ∈ e :: visiting, h.Ancestor p d := by
      intro d hd
      rcases List.mem_cons.1 hd with rfl | hd
      · exact .parent parent
      · exact (Hierarchy.Ancestor.parent parent).trans (below d hd)
    have gave := gave_resolveFrom h c p (e :: visiting) free
    rw [found] at ih gave
    have still : c'.resolved e = none := by
      rw [gave.untouched e List.mem_cons_self, unresolved]
    have kept := (ih lower).keep still fun q direct => by
      cases parent.symm.trans direct
      exact ⟨above, gave.known⟩
    rwa [parent, Option.bind_some, gave.known] at kept

theorem resolve (acyclic : h.Acyclic) {c : Catalog ρ n} (current : Current h c) (e : Fin n) :
    Current h (c.resolve h e).2 :=
  current.resolveFrom acyclic e [] List.not_mem_nil (by simp)

end Current

theorem made_keep {c : Catalog ρ n} (made : ∀ d l, c.resolved d = some l → l.Made) {e : Fin n}
    {m : Layout ρ} (new : m.Made) : ∀ d l, (c.keep e m).resolved d = some l → l.Made := by
  intro d l known
  by_cases same : d = e
  · subst same
    cases (resolved_keep_same c d m).symm.trans known
    exact new
  · exact made d l ((resolved_keep_of_ne c m same).symm.trans known)

theorem made_resolveFrom {c : Catalog ρ n} (made : ∀ d l, c.resolved d = some l → l.Made)
    (e : Fin n) (visiting : List (Fin n)) (fresh : e ∉ visiting) :
    ∀ d l, (resolveFrom h c e visiting fresh).2.resolved d = some l → l.Made := by
  fun_induction resolveFrom h c e visiting fresh with
  | case1 e visiting fresh l known => exact made
  | case2 e visiting fresh unresolved root l => exact made_keep made (.base _ _)
  | case3 e visiting fresh unresolved p parent cut l => exact made_keep made (.base _ _)
  | case4 e visiting fresh unresolved p parent free above c' found l ih =>
    have gave := gave_resolveFrom h c p (e :: visiting) free
    rw [found] at gave ih
    exact made_keep ih (.child (ih p above gave.known) _ _)

variable [DecidableEq ρ] [Rule ρ]

theorem current_of_reachable (acyclic : h.Acyclic) {c : Catalog ρ n} (reached : c.Reachable h) :
    Current h c := by
  obtain ⟨calls, rfl⟩ := reached
  exact run_keeps (fun _ _ _ field isOpen current => current.add isOpen field)
    (fun _ e current => current.resolve acyclic e) (current_empty h) calls

theorem made_of_kept {c : Catalog ρ n} (reached : c.Reachable h) {e : Fin n} {l : Layout ρ}
    (known : c.resolved e = some l) : l.Made := by
  obtain ⟨calls, rfl⟩ := reached
  exact run_keeps (P := fun c => ∀ d l, c.resolved d = some l → l.Made)
    (fun _ _ _ _ _ made => made) (fun _ e made => made_resolveFrom made e [] List.not_mem_nil)
    (by simp [empty]) calls e l known

theorem made_of_resolve {c : Catalog ρ n} (reached : c.Reachable h) (e : Fin n) :
    (c.resolve h e).1.Made := by
  obtain ⟨calls, rfl⟩ := reached
  have again : (((empty : Catalog ρ n).run h calls).resolve h e).2.Reachable h :=
    ⟨calls ++ [.resolve e], by simp [run, after]⟩
  exact made_of_kept again (gave_resolve h _ e).known

theorem resolved_run {c : Catalog ρ n} {e : Fin n} {l : Layout ρ}
    (known : c.resolved e = some l) (calls : List (Call ρ n)) :
    (c.run h calls).resolved e = some l :=
  run_keeps (P := fun c => c.resolved e = some l) (fun _ _ _ _ _ known => known)
    (fun c d known => (gave_resolve h c d).kept e l known) known calls

def parentFields (h : Hierarchy ρ n) (c : Catalog ρ n) (e : Fin n) : Assoc (Field ρ) :=
  ((h.parent e).bind c.resolved).elim [] Layout.fields

section Parent
omit [DecidableEq ρ] [Rule ρ]
variable {c : Catalog ρ n} (made : ∀ d l, c.resolved d = some l → l.Made)
include made

theorem made_of_parent {e : Fin n} {l : Layout ρ} (above : (h.parent e).bind c.resolved = some l) :
    l.Made := by
  obtain ⟨p, -, known⟩ := Option.bind_eq_some_iff.1 above
  exact made p l known

theorem distinct_parentFields (e : Fin n) : (c.parentFields h e).Distinct := by
  unfold parentFields
  cases above : (h.parent e).bind c.resolved with
  | none => exact List.nodup_nil
  | some l => exact (made_of_parent made above).tabled.distinct

theorem fields_ownLayer (e : Fin n) :
    (c.ownLayer h e ((h.parent e).bind c.resolved)).fields =
      (c.parentFields h e).putAll (h.declared e ++ c.registered e) := by
  rw [ownLayer, Layout.fields_layer fun l above => (made_of_parent made above).tabled.toPlaced,
    parentFields]
  cases (h.parent e).bind c.resolved <;> rfl

end Parent

/-- The layout kept for a type without loops above it is the parent's, under the type's
name, with the type's own fields put on it one after the other, and no later call changes
what is given out for the type. -/
theorem kept_layout_current (acyclic : h.Acyclic) {c : Catalog ρ n} (reached : c.Reachable h)
    {e : Fin n} {l : Layout ρ} (known : c.resolved e = some l) :
    (∀ a, h.Ancestor a e → ∃ m, c.resolved a = some m) ∧
    l = Layout.layer ((h.parent e).bind c.resolved) (h.name e) (h.declared e ++ c.registered e) ∧
    l.entity = h.name e ∧
    l.fields = (c.parentFields h e).putAll (h.declared e ++ c.registered e) ∧
    l.Reflects (c.parentFields h e ++ (h.declared e ++ c.registered e)) ∧
    ∀ later : List (Call ρ n), ((c.run h later).resolve h e).1 = l := by
  have current := current_of_reachable acyclic reached
  have made : ∀ d m, c.resolved d = some m → m.Made := fun _ _ kept => made_of_kept reached kept
  have layer := current.layers e l known
  have fields : l.fields = (c.parentFields h e).putAll (h.declared e ++ c.registered e) := by
    rw [layer, fields_ownLayer made]
  have written : l.fields =
      Assoc.putAll [] (c.parentFields h e ++ (h.declared e ++ c.registered e)) := by
    rw [fields, Assoc.putAll_append [], Assoc.putAll_of_distinct (distinct_parentFields made e)]
  refine ⟨fun a above => current.ancestors known above, layer, ?_, fields,
    (made e l known).tabled.reflects written, fun later => ?_⟩
  · rw [layer, ownLayer, Layout.entity_layer]
  · rw [resolve_of_resolved h (resolved_run known later)]

def officeRun : Catalog Directory.StockRule 9 :=
  run (Directory.hierarchy []) empty
    [.register Directory.employee "office" (.column "office"),
      .openFactory (some Directory.employee)]

open Directory in
theorem kept_layout_current_for_staff :
    let h := hierarchy []
    let late : List (Call StockRule 9) := [.register person "late" (.column "late")]
    let l := ((officeRun.run h late).resolve h employee).1
    h.Acyclic ∧ officeRun.Reachable h ∧ officeRun.resolved employee = some l ∧
    (∃ m, officeRun.resolved person = some m) ∧ l.entity = "Employee" ∧
    l.fields =
      [("id", { Field.column "id" with required := true }),
        ("firstName", .column "first_name"),
        ("lastName", .column "family_name"),
        ("fullName", .derived "full_name" "CONCAT(last_name, ', ', first_name)"),
        ("team", { Field.column "team_id" with symbolic := true }),
        ("colId", { Field.column "column_id" with unfilterable := true }),
        ("badge", .virtual "badge"),
        ("employeeNumber", { Field.column "employee_number" with required := true }),
        ("office", .column "office")] ∧
    l.lookup "surname" = none := by
  intro h late l
  have acyclic : h.Acyclic := Hierarchy.acyclic_of_rank Fin.val (by decide)
  have reached : officeRun.Reachable h := ⟨_, rfl⟩
  obtain ⟨m, known⟩ : ∃ m, officeRun.resolved employee = some m :=
    Option.isSome_iff_exists.1 (by decide +kernel)
  obtain ⟨ancestors, -, entity, fields, reflects, later⟩ :=
    kept_layout_current acyclic reached known
  have same : l = m := later late
  rw [same]
  refine ⟨acyclic, reached, known, ancestors person (.parent rfl), entity, fields.trans ?_,
    (reflects.lookup "surname").trans ?_⟩
  · decide +kernel
  · rw [fields]
    decide +kernel

end Catalog

end FieldMapping
