import FieldMapping.Catalog

/-! What resolving a type does to a catalog. Layouts that are kept stay as they are,
types on the way to the one being resolved are left alone, and afterwards that
type keeps the layout that was given out for it. -/

namespace FieldMapping.Catalog
variable {ρ : Type} {n : Nat}

@[simp] theorem registered_keep (c : Catalog ρ n) (e : Fin n) (l : Layout ρ) :
    (c.keep e l).registered = c.registered := rfl

@[simp] theorem resolved_keep_same (c : Catalog ρ n) (e : Fin n) (l : Layout ρ) :
    (c.keep e l).resolved e = some l := updateAt_same _ _ _

theorem resolved_keep_of_ne (c : Catalog ρ n) {e d : Fin n} (l : Layout ρ) (other : d ≠ e) :
    (c.keep e l).resolved d = c.resolved d := updateAt_of_ne _ _ other

theorem resolved_keep_of_resolved {c : Catalog ρ n} {e d : Fin n} {l m : Layout ρ}
    (unresolved : c.resolved e = none) (known : c.resolved d = some m) :
    (c.keep e l).resolved d = some m := by
  have other : d ≠ e := by
    rintro rfl
    simp [unresolved] at known
  rw [resolved_keep_of_ne c l other, known]

structure Gave (visiting : List (Fin n)) (c : Catalog ρ n) (e : Fin n) (l : Layout ρ)
    (c' : Catalog ρ n) : Prop where
  registered : c'.registered = c.registered
  kept : ∀ d m, c.resolved d = some m → c'.resolved d = some m
  known : c'.resolved e = some l
  untouched : ∀ d ∈ visiting, c'.resolved d = c.resolved d

theorem gave_keep {visiting : List (Fin n)} {c : Catalog ρ n} {e : Fin n} (l : Layout ρ)
    (fresh : e ∉ visiting) (unresolved : c.resolved e = none) :
    Gave visiting c e l (c.keep e l) where
  registered := rfl
  kept _ _ known := resolved_keep_of_resolved unresolved known
  known := resolved_keep_same c e l
  untouched _ hd := resolved_keep_of_ne c l fun same => fresh (same ▸ hd)

theorem Gave.child {visiting : List (Fin n)} {c c' : Catalog ρ n} {e p : Fin n}
    {above l : Layout ρ} (parent : Gave (e :: visiting) c p above c') (fresh : e ∉ visiting)
    (unresolved : c.resolved e = none) : Gave visiting c e l (c'.keep e l) := by
  have still : c'.resolved e = none := by
    rw [parent.untouched e List.mem_cons_self, unresolved]
  have own := gave_keep l fresh still
  exact
    { registered := own.registered.trans parent.registered
      kept := fun d m known => own.kept d m (parent.kept d m known)
      known := own.known
      untouched := fun d hd =>
        (own.untouched d hd).trans (parent.untouched d (List.mem_cons_of_mem e hd)) }

theorem gave_resolveFrom (h : Hierarchy ρ n) (c : Catalog ρ n) (e : Fin n)
    (visiting : List (Fin n)) (fresh : e ∉ visiting) :
    Gave visiting c e (resolveFrom h c e visiting fresh).1 (resolveFrom h c e visiting fresh).2 := by
  fun_induction resolveFrom h c e visiting fresh with
  | case1 e visiting fresh l known => exact ⟨rfl, fun _ _ same => same, known, fun _ _ => rfl⟩
  | case2 e visiting fresh unresolved root l => exact gave_keep l fresh unresolved
  | case3 e visiting fresh unresolved p parent cut l => exact gave_keep l fresh unresolved
  | case4 e visiting fresh unresolved p parent free above c' found l ih =>
    rw [found] at ih
    exact ih.child fresh unresolved

theorem gave_resolve (h : Hierarchy ρ n) (c : Catalog ρ n) (e : Fin n) :
    Gave [] c e (c.resolve h e).1 (c.resolve h e).2 :=
  gave_resolveFrom h c e [] List.not_mem_nil

end FieldMapping.Catalog
