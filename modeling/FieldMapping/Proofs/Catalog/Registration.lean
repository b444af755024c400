import FieldMapping.Proofs.Catalog.Lineage

/-! Registrations are final. The first field that a type declares or has registered under
a name decides every further registration under it, whatever is resolved meanwhile, while
a layout shows the last one. The two are the same unless the type itself declares the name
more than once, since nothing registered repeats a name. -/

namespace FieldMapping.Catalog
variable {ρ : Type} {n : Nat} {h : Hierarchy ρ n} {c c' : Catalog ρ n} {e d : Fin n}
variable {property other : String} {field : Field ρ}

open Assoc (keys)
open Hierarchy (upTo)

theorem ownFields_add (c : Catalog ρ n) (e d : Fin n) (property : String) (field : Field ρ) :
    (c.add e property field).ownFields h d =
      if d = e then c.ownFields h e ++ [(property, field)] else c.ownFields h d := by
  by_cases same : d = e
  · subst same
    simp [ownFields, add]
  · simp [ownFields, add, updateAt_of_ne _ _ same, same]

theorem ownFields_resolve (h : Hierarchy ρ n) (c : Catalog ρ n) (e d : Fin n) :
    (c.resolve h e).2.ownFields h d = c.ownFields h d := by
  rw [ownFields, (gave_resolve h c e).registered]
  rfl

theorem get?_ownFields_add (known : (c.ownFields h d).get? other = some field) (e : Fin n)
    (property : String) (new : Field ρ) :
    ((c.add e property new).ownFields h d).get? other = some field := by
  rw [ownFields_add]
  split
  · next same =>
    rw [Assoc.get?_append, ← same, known]
    rfl
  · exact known

/-- A type repeats no name, apart from those that it declares more than once. -/
def NewOnce (h : Hierarchy ρ n) (c : Catalog ρ n) : Prop :=
  ∀ e property, (keys (c.ownFields h e)).count property
    ≤ max 1 ((keys (h.declared e)).count property)

theorem newOnce_empty (h : Hierarchy ρ n) : NewOnce h empty := by
  intro e property
  simp only [ownFields, empty, List.append_nil]
  exact Nat.le_max_right 1 _

theorem NewOnce.add (once : NewOnce h c) (isOpen : c.Open h e property) (field : Field ρ) :
    NewOnce h (c.add e property field) := by
  intro d name
  rw [ownFields_add]
  split
  · next same =>
    subst same
    rw [Assoc.keys_append, List.count_append]
    by_cases new : property = name
    · subst new
      -- only a name that the type does not have yet is added, so it stands once now
      have absent : (c.ownFields h d).get? property = none := by
        rw [ownFields, Assoc.get?_append, isOpen.undeclared, isOpen.unregistered]
        rfl
      have none : (keys (c.ownFields h d)).count property = 0 :=
        List.count_eq_zero.2 (Assoc.get?_eq_none_iff.1 absent)
      have one : (keys [(property, field)]).count property = 1 := by simp [keys]
      omega
    · have none : (keys [(property, field)]).count name = 0 := by simp [keys, new]
      rw [none]
      exact once d name
  · exact once d name

theorem NewOnce.resolve (once : NewOnce h c) (e : Fin n) : NewOnce h (c.resolve h e).2 := by
  intro d property
  rw [ownFields_resolve]
  exact once d property

section
variable [DecidableEq ρ]

theorem register_of_known (known : (c.ownFields h e).get? property = some field)
    (attempt : Field ρ) :
    c.register h e property attempt =
      if attempt = field then .ok c
      else .error (.conflict (h.name e) property field.describe attempt.describe) := by
  rw [register_eq, known]
  by_cases same : attempt = field
  · simp [agree, same, Except.map]
  · simp [agree, same, Ne.symm same, Except.map]

theorem get?_of_register (ok : c.register h e property field = .ok c') :
    (c'.ownFields h e).get? property = some field := by
  cases known : (c.ownFields h e).get? property with
  | some existing =>
    rw [register_of_known known] at ok
    by_cases same : field = existing
    · have still : c = c' := by simpa [same] using ok
      rw [← still, known, same]
    · simp [same] at ok
  | none =>
    rw [register_eq, known] at ok
    cases late : c.isResolved e with
    | true => simp [late] at ok
    | false =>
      have added : c.add e property field = c' := by simpa [late] using ok
      rw [← added, ownFields_add, if_pos rfl, Assoc.get?_append, known]
      simp [Assoc.get?]

end

section
variable [DecidableEq ρ] [Rule ρ]

theorem get?_ownFields_run (known : (c.ownFields h e).get? property = some field)
    (calls : List (Call ρ n)) : ((c.run h calls).ownFields h e).get? property = some field :=
  run_keeps (P := fun c => (c.ownFields h e).get? property = some field)
    (fun _ d name new _ known => get?_ownFields_add known d name new)
    (fun c d known => by rwa [ownFields_resolve]) known calls

theorem newOnce_of_reachable (reached : c.Reachable h) : NewOnce h c := by
  obtain ⟨calls, rfl⟩ := reached
  exact run_keeps (fun _ _ _ field isOpen once => once.add isOpen field)
    (fun _ e once => once.resolve e) (newOnce_empty h) calls

theorem Reachable.run (reached : c.Reachable h) (calls : List (Call ρ n)) :
    (c.run h calls).Reachable h := by
  obtain ⟨before, rfl⟩ := reached
  exact ⟨before ++ calls, List.foldl_append⟩

theorem Reachable.register (reached : c.Reachable h)
    (ok : c.register h e property field = .ok c') : c'.Reachable h := by
  have one := reached.run [.register e property field]
  rwa [Catalog.run, List.foldl_cons, List.foldl_nil, after, ok] at one

theorem resolve_root (reached : c.Reachable h) (root : h.parent e = none) :
    (c.resolve h e).1 = c.ownLayer h e none := by
  obtain ⟨cuts, closed⟩ := closed_of_reachable reached
  have line : h.lineage e = [e] := Hierarchy.lineFrom_root List.not_mem_nil root
  have alone : upTo cuts [e] = [e] := by by_cases cut : e ∈ cuts <;> simp [upTo, cut]
  have layers := closed.resolve_fst e
  rw [line, alone, layered, layered] at layers
  exact Option.some.inj layers

theorem mem_ownFields_of_resolve_root (reached : c.Reachable h) (root : h.parent e = none)
    (shown : (property, field) ∈ (c.resolve h e).1.fields) :
    (property, field) ∈ c.ownFields h e := by
  have tabled := (made_of_resolve reached e).tabled
  have found : (c.resolve h e).1.get? property = some field := by
    rw [tabled.get?_eq]
    exact Assoc.get?_of_mem tabled.distinct shown
  rw [resolve_root reached root, ownLayer, Layout.get?_layer (by simp), Option.bind_none,
    Option.or_none] at found
  exact List.mem_reverse.1 (Assoc.mem_of_get? found)

theorem get?_resolve (reached : c.Reachable h)
    (last : Assoc.get? (c.ownFields h e).reverse property = some field) :
    (c.resolve h e).1.get? property = some field := by
  obtain ⟨parent, made, layer⟩ := exists_ownLayer_of_resolve reached e
  have shown := Layout.get?_layer (fun l above => (made l above).tabled.toPlaced) (h.name e)
    (c.ownFields h e) property
  rw [layer, ownLayer]
  rw [last] at shown
  exact shown

theorem get?_resolve_of_once (reached : c.Reachable h)
    (known : (c.ownFields h e).get? property = some field)
    (once : (keys (h.declared e)).count property ≤ 1) :
    (c.resolve h e).1.get? property = some field := by
  have bound := newOnce_of_reachable reached e property
  refine get?_resolve reached ?_
  rw [Assoc.get?_reverse (by omega), known]

theorem get?_resolve_of_repeated (reached : c.Reachable h)
    (known : (c.ownFields h e).get? property = some field)
    (repeated : 1 < (keys (h.declared e)).count property) :
    Assoc.get? (h.declared e) property = some field ∧
      ∃ last, Assoc.get? (h.declared e).reverse property = some last ∧
        (c.resolve h e).1.get? property = some last := by
  -- the declarations alone reach the bound, which leaves no room for a registered field
  have bound := newOnce_of_reachable reached e property
  rw [ownFields, Assoc.keys_append, List.count_append] at bound
  have unregistered : Assoc.get? (c.registered e) property = none := by
    rw [Assoc.get?_eq_none_iff, ← List.count_eq_zero]
    omega
  have behind : Assoc.get? (c.registered e).reverse property = none := by
    rw [Assoc.get?_reverse (by omega), unregistered]
  have declared : property ∈ keys (h.declared e).reverse := by
    rw [Assoc.keys_reverse, List.mem_reverse]
    exact List.count_pos_iff.1 (by omega)
  obtain ⟨last, found⟩ : ∃ last, Assoc.get? (h.declared e).reverse property = some last := by
    rw [← Option.isSome_iff_exists]
    exact Assoc.has_iff.2 declared
  rw [ownFields, Assoc.get?_append, unregistered, Option.or_none] at known
  refine ⟨known, last, found, get?_resolve reached ?_⟩
  rw [ownFields, List.reverse_append, Assoc.get?_append, behind, found]
  rfl

/-- The field was accepted on the way to this catalog. -/
def Accepted (h : Hierarchy ρ n) (c : Catalog ρ n) (e : Fin n) (property : String)
    (field : Field ρ) : Prop :=
  ∃ before taken : Catalog ρ n, before.Reachable h ∧
    before.register h e property field = .ok taken ∧ ∃ calls, taken.run h calls = c

namespace Accepted

theorem reachable (accepted : c.Accepted h e property field) : c.Reachable h := by
  obtain ⟨before, taken, reached, ok, calls, rfl⟩ := accepted
  exact (reached.register ok).run calls

theorem known (accepted : c.Accepted h e property field) :
    (c.ownFields h e).get? property = some field := by
  obtain ⟨before, taken, -, ok, calls, rfl⟩ := accepted
  exact get?_ownFields_run (get?_of_register ok) calls

end Accepted

/-- What was accepted once decides all that comes later, and a registration that is
refused or repeats an accepted one leaves the rest of the run as it would be without it. -/
theorem accepted_stands (h : Hierarchy ρ n) (c : Catalog ρ n) (e : Fin n) (property : String)
    (field : Field ρ) :
    (c.Accepted h e property field →
      (∀ attempt : Field ρ, c.register h e property attempt =
        if attempt = field then .ok c
        else .error (.conflict (h.name e) property field.describe attempt.describe)) ∧
      ((keys (h.declared e)).count property ≤ 1 →
        (c.resolve h e).1.get? property = some field) ∧
      (1 < (keys (h.declared e)).count property →
        Assoc.get? (h.declared e) property = some field ∧
        ∃ last, Assoc.get? (h.declared e).reverse property = some last ∧
          (c.resolve h e).1.get? property = some last)) ∧
    (c.Accepted h e property field ∨ (∃ error, c.register h e property field = .error error) →
      ∀ later : List (Call ρ n),
        c.run h (.register e property field :: later) = c.run h later) := by
  constructor
  · intro accepted
    exact ⟨register_of_known accepted.known,
      get?_resolve_of_once accepted.reachable accepted.known,
      get?_resolve_of_repeated accepted.reachable accepted.known⟩
  · intro silent later
    have same : c.after h (.register e property field) = c := by
      rcases silent with accepted | ⟨error, refused⟩
      · have again := register_of_known accepted.known field
        rw [if_pos rfl] at again
        rw [after, again]
      · rw [after, refused]
    rw [run, List.foldl_cons, same]
    rfl

end

open Directory in
def recoded : Hierarchy StockRule 9 :=
  hierarchy [⟨[("code", .column "old_code"), ("code", .column "code")], some person⟩]

theorem accepted_stands_for_codes :
    let c := run recoded empty [.register 5 "office" (.column "office"), .resolve 5,
      .register 5 "code" (.column "old_code")]
    c.Accepted recoded 5 "office" (.column "office") ∧
    c.Accepted recoded 5 "code" (.column "old_code") ∧
    c.register recoded 5 "office" (.column "desk") =
      .error (.conflict "E0" "office" "office" "desk") ∧
    (c.resolve recoded 5).1.get? "office" = some (.column "office") ∧
    (c.resolve recoded 5).1.get? "code" = some (.column "code") ∧
    ∀ later, c.run recoded (.register 5 "office" (.column "office") :: later) =
        c.run recoded later ∧
      c.run recoded (.register 5 "late" (.column "late") :: later) = c.run recoded later := by
  intro c
  have office : c.Accepted recoded 5 "office" (.column "office") :=
    ⟨empty, _, ⟨[], rfl⟩, rfl, [.resolve 5, .register 5 "code" (.column "old_code")], rfl⟩
  have code : c.Accepted recoded 5 "code" (.column "old_code") :=
    ⟨c, c, ⟨_, rfl⟩, rfl, [], rfl⟩
  have late : c.register recoded 5 "late" (.column "late") =
      .error (.alreadyResolved "E0" "late") := by
    have unknown : (c.ownFields recoded 5).get? "late" = none := by decide +kernel
    have resolved : c.isResolved 5 = true := by decide +kernel
    rw [register_eq, unknown, resolved]
    rfl
  obtain ⟨verdict, once, -⟩ := (accepted_stands recoded c 5 "office" (.column "office")).1 office
  obtain ⟨-, -, repeated⟩ := (accepted_stands recoded c 5 "code" (.column "old_code")).1 code
  obtain ⟨-, last, declared, shown⟩ := repeated (by decide)
  have same : some (.column "code") = some last := Eq.trans (by decide) declared
  refine ⟨office, code, (verdict (.column "desk")).trans (if_neg (by decide)),
    once (by decide), shown.trans same.symm, fun later => ⟨?_, ?_⟩⟩
  · exact (accepted_stands recoded c 5 "office" (.column "office")).2 (.inl office) later
  · exact (accepted_stands recoded c 5 "late" (.column "late")).2 (.inr ⟨_, late⟩) later

end FieldMapping.Catalog
