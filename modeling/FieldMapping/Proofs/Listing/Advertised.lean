import FieldMapping.Proofs.Layout.Tables
import FieldMapping.Proofs.Listing.Agreement
import FieldMapping.Proofs.Storage.Meaning

/-! What a scoped factory lists as filterable and sortable is what it accepts. The lists
name properties, while requests may use source names as well, so a column is accepted
when the property that its name means is on the list. -/

namespace FieldMapping

namespace Layout
variable {ρ : Type} {l : Layout ρ} {name property : String} {field : Field ρ}

def Lists (l : Layout ρ) (listed : Option (List String)) (name : String) : Prop :=
  ∃ property field, l.lookup name = some (property, field) ∧
    ∃ properties, listed = some properties ∧ property ∈ properties

theorem mem_chosen_iff (tabled : l.Tabled) (found : l.lookup name = some (property, field))
    (chosen : Field ρ → Bool) :
    property ∈ (l.fields.filter fun p => chosen p.2).map Prod.fst ↔ chosen field = true := by
  have declared : (property, field) ∈ l.fields := tabled.mem_of_lookup found
  simp only [List.mem_map, List.mem_filter]
  constructor
  · rintro ⟨⟨_, other⟩, ⟨listed, holds⟩, rfl⟩
    have same : some other = some field :=
      (Assoc.get?_of_mem tabled.distinct listed).symm.trans
        (Assoc.get?_of_mem tabled.distinct declared)
    rwa [← Option.some.inj same]
  · intro holds
    exact ⟨(property, field), ⟨declared, holds⟩, rfl⟩

theorem lists_iff (tabled : l.Tabled) (chosen : Field ρ → Bool) :
    l.Lists (some ((l.fields.filter fun p => chosen p.2).map Prod.fst)) name ↔
      ∃ property field, l.lookup name = some (property, field) ∧ chosen field = true := by
  refine exists_congr fun property => exists_congr fun field => and_congr_right fun found => ?_
  rw [← mem_chosen_iff tabled found chosen]
  simp

theorem checkFilter_passes_iff {f : Filter} :
    (∃ u, l.checkFilter f = .ok u) ↔ ∀ c ∈ f.columns, l.Admits c.1 := by
  rw [(l.agree_checkFilter f).pass_iff]
  constructor
  · rintro ⟨s, ok⟩
    exact (storageFilter_eq_ok_iff.1 ok).1
  · intro admitted
    exact ⟨_, storageFilter_eq_ok_iff.2 ⟨admitted, rfl⟩⟩

def Orders (l : Layout ρ) (name : String) : Prop :=
  ∃ property field, l.lookup name = some (property, field) ∧ field.isStored = true

theorem orders_iff (found : l.lookup name = some (property, field)) :
    l.Orders name ↔ field.isStored = true :=
  exists_meant_iff found fun field => field.isStored = true

theorem checkSortKey_passes_iff {s : SortKey} :
    (∃ u, l.checkSortKey s = .ok u) ↔ l.Orders s.column := by
  cases found : l.lookup s.column with
  | none => simp [checkSortKey, Orders, found]
  | some p =>
    rw [orders_iff found]
    simp only [checkSortKey, found, Field.isStored]
    cases p.2.origin.isVirtual <;> cases p.2.target.isExtended <;> simp

theorem checkSorting_passes_iff {keys : List SortKey} :
    (∃ u, l.checkSorting keys = .ok u) ↔ ∀ s ∈ keys, l.Orders s.column := by
  simp only [checkSorting, map_passes_iff, traverse_passes_iff, checkSortKey_passes_iff]

theorem filterable_iff (tabled : l.Tabled) : l.Lists (some l.filterable) name ↔ l.Admits name := by
  rw [filterable, lists_iff tabled fun field => !field.unfilterable && field.isStored]
  simp [Admits, Field.isStored]

theorem sortable_iff (tabled : l.Tabled) : l.Lists (some l.sortable) name ↔ l.Orders name :=
  lists_iff tabled Field.isStored

end Layout

namespace Terms
variable {ρ : Type} {l : Layout ρ} {t : Terms} {f : Option Filter}

theorem arguments_pass_iff (asks : t.Asks f) :
    (∃ a, t.arguments (some l) = .ok a) ↔
      (∀ c ∈ f.elim [] Filter.columns, l.Admits c.1) ∧
        ∀ s ∈ t.sorting.getD [], l.Orders s.column := by
  have filter : (∃ g, readFilter (some l) t.filters = .ok g) ↔
      ∀ c ∈ f.elim [] Filter.columns, l.Admits c.1 := by
    rw [l.readFilter_of_asks asks]
    cases f with
    | none => simp
    | some f => exact map_passes_iff.trans Layout.checkFilter_passes_iff
  rw [← filter]
  unfold arguments
  cases readFilter (some l) t.filters with
  | error e => simp [bind, Except.bind]
  | ok g =>
    cases t.sorting with
    | none => simp [bind, Except.bind]
    | some keys => simp [bind, Except.bind, map_passes_iff, Layout.checkSorting_passes_iff]

end Terms

theorem PagedFactory.build_passes_iff {ρ : Type} (x : PagedFactory ρ) (r : Request) :
    (∃ a, x.build r = .ok a) ↔
      (∃ w, x.pager.window r.startRow r.endRow = .ok w) ∧
        ∃ a, r.terms.arguments x.scope = .ok a := by
  simp only [build_eq_ok_iff]
  constructor
  · rintro ⟨a, valid, passed⟩
    exact ⟨⟨_, valid⟩, _, passed⟩
  · rintro ⟨⟨w, valid⟩, a, passed⟩
    exact ⟨⟨w, a⟩, valid, passed⟩

namespace Layout
variable {ρ : Type}

theorem accepts_iff_advertised {l : Layout ρ} (made : l.Made) {t : Terms} {f : Option Filter}
    (asks : t.Asks f) (pager : Pager) (start stop : Option UInt64) :
    let x : OpenFactory ρ := ⟨some l⟩
    let y : PagedFactory ρ := ⟨pager, some l⟩
    ((∃ a, x.build t = .ok a) ↔
      (∀ c ∈ f.elim [] Filter.columns, l.Lists x.filterable c.1) ∧
        ∀ s ∈ t.sorting.getD [], l.Lists x.sortable s.column) ∧
    ((∃ a, y.build ⟨start, stop, t⟩ = .ok a) ↔
      (∃ w, pager.window start stop = .ok w) ∧
        (∀ c ∈ f.elim [] Filter.columns, l.Lists y.filterable c.1) ∧
          ∀ s ∈ t.sorting.getD [], l.Lists y.sortable s.column) := by
  have listed : (∃ a, t.arguments (some l) = .ok a) ↔
      (∀ c ∈ f.elim [] Filter.columns, l.Lists (some l.filterable) c.1) ∧
        ∀ s ∈ t.sorting.getD [], l.Lists (some l.sortable) s.column := by
    rw [Terms.arguments_pass_iff asks]
    simp only [filterable_iff made.tabled, sortable_iff made.tabled]
  exact ⟨listed, (PagedFactory.build_passes_iff _ _).trans (and_congr_right fun _ => listed)⟩

open Directory in
theorem accepts_iff_advertised_for_people :
    let l : Layout StockRule := .ofFields "Person" Person.fields
    let node : Value := .object [("filterType", .string "text"), ("type", .string "blank")]
    let column : Filter.Column := .single ⟨.text, .blank, .none⟩
    let allowed : Terms := ⟨some (.object [("surname", node)]), some [⟨"colId", .ascending⟩]⟩
    let denied : Terms := ⟨some (.object [("colId", node)]), none⟩
    let pager := Pager.of {}
    let x : OpenFactory StockRule := ⟨some l⟩
    let y : PagedFactory StockRule := ⟨pager, some l⟩
    l.Made ∧ allowed.Asks (some ⟨[("surname", column)]⟩) ∧
    denied.Asks (some ⟨[("colId", column)]⟩) ∧ (∃ a, x.build allowed = .ok a) ∧
    (∃ a, y.build ⟨none, some 5, allowed⟩ = .ok a) ∧ ¬ ∃ a, x.build denied = .ok a := by
  intro l node column allowed denied pager x y
  have made : l.Made := made_ofFields _ _
  have asks : allowed.Asks (some ⟨[("surname", column)]⟩) := .read rfl rfl
  have asks' : denied.Asks (some ⟨[("colId", column)]⟩) := .read rfl rfl
  obtain ⟨openly, paged⟩ := accepts_iff_advertised made asks pager none (some 5)
  have surname : l.Lists (some l.filterable) "surname" :=
    ⟨"lastName", _, rfl, _, rfl, by decide⟩
  have colId : l.Lists (some l.sortable) "colId" := ⟨"colId", _, rfl, _, rfl, by decide⟩
  have listed : (∀ c ∈ [("surname", column)], l.Lists (some l.filterable) c.1) ∧
      ∀ s ∈ [SortKey.mk "colId" .ascending], l.Lists (some l.sortable) s.column := by
    simpa using ⟨surname, colId⟩
  refine ⟨made, asks, asks', openly.2 listed, paged.2 ⟨⟨_, rfl⟩, listed⟩, fun built => ?_⟩
  have columns := ((accepts_iff_advertised made asks' pager none none).1.1 built).1
  obtain ⟨property, field, found, _, ⟨⟩, member⟩ := columns ("colId", column) List.mem_cons_self
  have own : l.lookup "colId" =
      some ("colId", { Field.column "column_id" with unfilterable := true }) := by decide
  cases own.symm.trans found
  exact absurd member (by decide)

end Layout

end FieldMapping
