import FieldMapping.Proofs.Catalog.Lineage

/-! What the tables of a layout say, whether it was made of a list of fields or resolved
along a line of types. Either way there is one list of given fields, those of the oldest
type first: a property stands where it was first given, with the field last given for it,
and the two tables answer as a search through the fields does. -/

namespace FieldMapping

namespace Catalog
variable {ρ : Type} {n : Nat} {h : Hierarchy ρ n}

open Hierarchy (upTo)

/-- The tables describe the fields of a layout, however it came about. A layout that was
resolved has the fields of its type's line, which ends at the first type where it would
repeat or where a loop was closed before. -/
theorem tables_describe_fields [DecidableEq ρ] [Rule ρ] (h : Hierarchy ρ n) (c : Catalog ρ n) :
    (∀ (entity : String) (given : List (String × Field ρ)),
      (Layout.ofFields entity given).Reflects given) ∧
    (c.Reachable h → ∃ cuts : List (Fin n),
      (∀ b ∈ cuts, h.Looped b ∧ ∃ l, c.resolved b = some l) ∧
      ∀ e, (c.resolve h e).1.Reflects (c.lineFields h (upTo cuts (h.lineage e)))) := by
  refine ⟨Layout.reflects_ofFields, fun reached => ?_⟩
  obtain ⟨cuts, closed⟩ := closed_of_reachable reached
  exact ⟨cuts, fun b hb => ⟨closed.looped b hb, closed.resolved b hb⟩,
    fun e => reflects_of_layered (closed.resolve_fst e).symm⟩

open Directory in
def crossed : Hierarchy StockRule 9 :=
  hierarchy [⟨[("name", { Field.column "name" with source := some "label" }),
      ("code", .column "code")], none⟩,
    ⟨[("name", .column "title"), ("number", { Field.column "no" with source := some "code" })],
      find? "E0"⟩]

theorem tables_describe_crossed_fields :
    let c := run crossed empty [.resolve 6]
    c.Reachable crossed ∧
    (c.resolve crossed 6).1.Reflects
      (crossed.declared 5 ++ crossed.declared 6) ∧
    (c.resolve crossed 6).1.properties = ["name", "code", "number"] ∧
    (c.resolve crossed 6).1.lookup "label" = none ∧
    (c.resolve crossed 6).1.lookup "code" = some ("code", .column "code") := by
  intro c
  have acyclic : crossed.Acyclic := Hierarchy.acyclic_of_rank Fin.val (by decide)
  have reached : c.Reachable crossed := ⟨_, rfl⟩
  obtain ⟨cuts, loops, reflects⟩ := (tables_describe_fields crossed c).2 reached
  have none : cuts = [] := by
    rw [List.eq_nil_iff_forall_not_mem]
    exact fun b hb => acyclic b (loops b hb).1.1
  have line : c.lineFields crossed (upTo cuts (crossed.lineage 6)) =
      crossed.declared 5 ++ crossed.declared 6 := by
    rw [none]
    decide +kernel
  have shown := reflects 6
  rw [line] at shown
  refine ⟨reached, shown, shown.order.trans (by decide), (shown.lookup "label").trans ?_,
    (shown.lookup "code").trans ?_⟩
  · decide +kernel
  · decide +kernel

end Catalog

end FieldMapping
