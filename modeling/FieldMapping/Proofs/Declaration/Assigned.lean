import FieldMapping.Proofs.Assignment.Written
import FieldMapping.Proofs.Catalog.Registration
import FieldMapping.Proofs.Declaration.Expansion

/-! What the assignment that a declaration expands to refuses. Its own arms come first,
and behind them a type with a parent has the written form while a type without one has
nothing. A property that the layout of the type does not show as derived is refused on
two conditions: no arm is left over from a derived field whose name a later field has
taken, and the written form does not have it as a key. -/

namespace FieldMapping

open Assoc (keys)

section Refused
variable {α : Type} {entity property : String} {a : α} {value : Value}

theorem assignOwn_eq_unknown_iff {own : List (String × (α → Value → Option α))}
    {others : Assign α} :
    assignOwn own others a property value = .error (.unknown entity property) ↔
      property ∉ keys own ∧ others a property value = .error (.unknown entity property) := by
  rw [← Assoc.get?_eq_none_iff]
  cases arm : Assoc.get? own property with
  | none => simp [assignOwn, arm]
  | some set => cases taken : set a value <;> simp [assignOwn, arm, taken]

end Refused

namespace Declaration
variable {ρ α : Type} {n : Nat} {d : Declaration Path} {s : Scope ρ n} {property : String}

theorem assign_eq_unknown_iff {codec : Codec α} {set : String → α → Value → Option α} {a : α}
    {value : Value} :
    d.assign codec set a property value = .error (.unknown d.entityName property) ↔
      property ∉ keys d.assignable ∧
        (d.parent = none ∨ ∃ w, codec.write a = some w ∧ w.member? property = none) := by
  have arms : keys (d.assignable.map fun arm => (arm.1, set arm.2)) = keys d.assignable := by
    simp [keys, Function.comp_def]
  rw [assign, assignOwn_eq_unknown_iff, arms]
  cases d.parent with
  | none => simp [assignNothing]
  | some parent => simp [assignWritten_eq_unknown_iff]

theorem exists_row_of_assignable (own : property ∈ keys d.assignable) :
    ∃ field expression, (property, field) ∈ d.declared s.rule ∧
      field.origin.expression? = some expression := by
  simp only [keys, assignable, List.map_map, List.mem_map, List.mem_filter,
    Function.comp_apply] at own
  obtain ⟨f, ⟨mapped, derived⟩, rfl⟩ := own
  obtain ⟨expression, computed⟩ := Option.isSome_iff_exists.1 derived
  refine ⟨f.field.map s.rule, expression, ?_, ?_⟩
  · exact List.mem_map.2 ⟨(f.property d.renameRule?, f.field), List.mem_map_of_mem mapped, rfl⟩
  · simp [Field.map, FieldDeclaration.field, FieldDeclaration.origin, computed,
      Origin.expression?]

variable [DecidableEq ρ] [Rule ρ] {h : Hierarchy ρ n} {c : Catalog ρ n} {e : Fin n}

theorem mem_derived_of_assignable (same : h.declared e = d.declared s.rule)
    (reached : c.Reachable h) (own : property ∈ keys d.assignable)
    (once : (keys (h.declared e)).count property ≤ 1) :
    property ∈ keys (c.resolve h e).1.derived := by
  obtain ⟨field, expression, row, computed⟩ := exists_row_of_assignable (s := s) own
  rw [← same] at row
  have known : Assoc.get? (h.declared e) property = some field :=
    Assoc.get?_of_mem_of_once row once
  have shown : (c.resolve h e).1.get? property = some field := by
    refine Catalog.get?_resolve_of_once reached ?_ once
    rw [Catalog.ownFields, Assoc.get?_append, known]
    rfl
  rw [(Catalog.made_of_resolve reached e).tabled.get?_eq] at shown
  have listed : (property, expression) ∈ (c.resolve h e).1.derived :=
    List.mem_filterMap.2 ⟨_, Assoc.mem_of_get? shown, by simp [computed]⟩
  exact List.mem_map_of_mem listed

/-- What is not derived in the layout is refused by a type without a parent, and by the
others if their written form lacks it; an arm is in the way only if a name is declared
twice. -/
theorem underived_refused_iff {m : Model} {set : String → m.Carrier → Value → Option m.Carrier}
    (generates : d.Generates s h e m set) (reached : c.Reachable h)
    (underived : property ∉ keys (c.resolve h e).1.derived) :
    (∀ (a : m.Carrier) (value : Value),
      m.assign a property value = .error (.unknown (h.name e) property) ↔
        property ∉ keys d.assignable ∧
          (d.parent = none ∨ ∃ w, m.codec.write a = some w ∧ w.member? property = none)) ∧
    ((keys (h.declared e)).count property ≤ 1 → property ∉ keys d.assignable) := by
  constructor
  · intro a value
    rw [generates.assign, generates.name]
    exact assign_eq_unknown_iff
  · intro once own
    exact underived (mem_derived_of_assignable generates.declared reached own once)

end Declaration

namespace Directory

def newcomer : Employee := ⟨7, "Ann", "Lee", none, "E-1"⟩

theorem underived_refused_iff_of_newcomer :
    let layout := (Catalog.empty.resolve (hierarchy []) employee).1
    ("team" ∉ keys layout.derived ∧ ∀ value,
      Employee.model.assign newcomer "team" value = .error (.unknown "Employee" "team")) ∧
    ("id" ∉ keys layout.derived ∧ ∀ value,
      Employee.model.assign newcomer "id" value ≠ .error (.unknown "Employee" "id")) := by
  intro layout
  have team : "team" ∉ keys layout.derived := by decide +kernel
  have id : "id" ∉ keys layout.derived := by decide +kernel
  have generates := Employee.generates []
  have reached : (Catalog.empty (ρ := StockRule)).Reachable (hierarchy []) := ⟨[], rfl⟩
  refine ⟨⟨team, fun value => ?_⟩, id, fun value refused => ?_⟩
  · obtain ⟨refused, once⟩ := Declaration.underived_refused_iff generates reached team
    exact (refused newcomer value).2 ⟨once (by decide), .inr ⟨_, rfl, by decide⟩⟩
  · obtain ⟨-, root | ⟨w, written, unknown⟩⟩ :=
      ((Declaration.underived_refused_iff generates reached id).1 newcomer value).1 refused
    · exact absurd root (by decide)
    · cases written
      exact absurd unknown (by decide)

/-- The number of an employee is stored and not derived, and still is overwritten. -/
theorem stored_number_is_assigned :
    Employee.declaration.Generates scope (hierarchy []) employee Employee.model Employee.set ∧
    "id" ∉ keys (Catalog.empty.resolve (hierarchy []) employee).1.derived ∧
    Employee.model.assign newcomer "id" (ofInt64 8) = .ok { newcomer with id := 8 } :=
  ⟨Employee.generates [], by decide +kernel, rfl⟩

end Directory

end FieldMapping
