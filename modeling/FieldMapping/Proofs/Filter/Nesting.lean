import FieldMapping.Proofs.Filter.Grammar
import Mathlib.Data.List.Forall2

/-! What becomes of the nodes nested in a node. A list of conditions speaks for the node
alone; only without one do the two older names count. Whichever it is, every node of it is
read as one condition, in its place. Nodes that join by the second of the older names alone
are left out. -/

namespace FieldMapping

theorem traverse_eq_ok_iff_forall₂ {α β ε : Type} {f : α → Except ε β} {as : List α}
    {bs : List β} : traverse f as = .ok bs ↔ List.Forall₂ (fun a b => f a = .ok b) as bs := by
  rw [traverse_eq_ok_iff, ← List.forall₂_eq_eq_eq, List.forall₂_map_left_iff,
    List.forall₂_map_right_iff]

namespace Filter

/-- One condition for each nested node, in the same order. -/
def ReadsNested (column : String) (kind : Kind) (node : Record) (c : Column) : Prop :=
  ∃ connective nodes conditions, Nests node nodes ∧ nodes ≠ [] ∧
    List.Forall₂ (fun v condition => nestedOf column kind v = .ok condition) nodes conditions ∧
    c = .joined connective conditions

theorem joinedOf_readsNested {column : String} {kind : Kind} {node : Record} {c : Column}
    (read : joinedOf column kind node = .ok c) : ReadsNested column kind node c := by
  obtain ⟨connective, nodes, conditions, -, listed, nonempty, each, rfl⟩ :=
    joinedOf_eq_ok_iff.1 read
  exact ⟨connective, nodes, conditions, (nestedNodes_eq_ok_iff column).1 listed, nonempty,
    traverse_eq_ok_iff_forall₂.1 each, rfl⟩

/-- A second condition without any other key that joins. -/
def SecondAlone (node : Record) : Prop :=
  node.get? "condition2" ≠ none ∧
    ∀ key ∈ ["operator", "conditions", "condition1"], node.get? key = none

/-- A column under its name, joined from the nested nodes if its node has a key for them. -/
def KeepsNested (p : String × Value) (q : String × Column) : Prop :=
  q.1 = p.1 ∧ ∃ (node : Record) (kind : Kind), p.2 = .object node ∧
    node.get? "filterType" = some (.string kind.name) ∧
    ((∃ key ∈ ["operator", "conditions", "condition1", "condition2"], node.get? key ≠ none) →
      ¬ SecondAlone node → ReadsNested p.1 kind node q.2)

theorem secondAlone_of_not_isJoined {node : Record} (alone : isJoined node = false)
    (joins : ∃ key ∈ ["operator", "conditions", "condition1", "condition2"],
      node.get? key ≠ none) : SecondAlone node := by
  have absent := isJoined_eq_false_iff.1 alone
  refine ⟨?_, absent⟩
  obtain ⟨key, member, here⟩ := joins
  rw [show ["operator", "conditions", "condition1", "condition2"] =
    ["operator", "conditions", "condition1"] ++ ["condition2"] from rfl,
    List.mem_append, List.mem_singleton] at member
  rcases member with first | rfl
  · exact absurd (absent key first) here
  · exact here

theorem namedColumnOf_keepsNested {p : String × Value} {q : String × Column}
    (read : namedColumnOf p = .ok q) : KeepsNested p q := by
  obtain ⟨name, one⟩ := namedColumnOf_eq_ok_iff.1 read
  obtain ⟨node, kind, object, declared, ⟨-, joined⟩ | ⟨alone, -⟩⟩ := columnOf_eq_ok_iff.1 one
  · exact ⟨name, node, kind, object, declared, fun _ _ => joinedOf_readsNested joined⟩
  · exact ⟨name, node, kind, object, declared, fun joins left =>
      absurd (secondAlone_of_not_isJoined alone joins) left⟩

/-- None of the nested nodes that count has been left out of a filter that was read. -/
theorem nested_nodes_are_read {columns : Record} {f : Filter}
    (read : ofValue (.object columns) = .ok f) : List.Forall₂ KeepsNested columns f.columns := by
  obtain ⟨_, same, each⟩ := ofValue_eq_ok_iff.1 read
  cases same
  exact (traverse_eq_ok_iff_forall₂.1 each).imp fun _ _ => namedColumnOf_keepsNested

theorem nested_nodes_are_read_in_both_spellings :
    let blank : Value := .object [("type", .string "blank")]
    let starts : Value := .object [("type", .string "startsWith"), ("filter", .string "D")]
    let columns : Record :=
      [("team", .object [("filterType", .string "text"), ("operator", .string "And"),
          ("conditions", .array [blank, starts, blank])]),
       ("lastName", .object [("condition2", starts), ("condition1", blank),
          ("operator", .string "OR"), ("filterType", .string "text")]),
       ("firstName", .object [("filterType", .string "text"), ("operator", .string "or"),
          ("condition2", starts)])]
    let blankRead : Condition := ⟨.text, .blank, .none⟩
    let startsRead : Condition := ⟨.text, .startsWith, .single (.text "D")⟩
    let f : Filter :=
      ⟨[("team", .joined .and [blankRead, startsRead, blankRead]),
        ("lastName", .joined .or [blankRead, startsRead]),
        ("firstName", .joined .or [startsRead])]⟩
    ofValue (.object columns) = .ok f ∧ List.Forall₂ KeepsNested columns f.columns := by
  intro blank starts columns blankRead startsRead f
  have read : ofValue (.object columns) = .ok f := rfl
  exact ⟨read, nested_nodes_are_read read⟩

/-- A sound condition is dropped beside a list, and likewise where it stands under the
second name and the node has a test of its own. -/
theorem sound_conditions_dropped :
    let blank : Value := .object [("type", .string "blank")]
    let starts : Value := .object [("type", .string "startsWith"), ("filter", .string "D")]
    let beside : Record :=
      [("filterType", .string "text"), ("operator", .string "AND"),
       ("conditions", .array [blank]), ("condition1", starts)]
    let second : Record :=
      [("filterType", .string "text"), ("type", .string "blank"), ("condition2", starts)]
    let blankRead : Condition := ⟨.text, .blank, .none⟩
    nestedOf "a" .text starts = .ok ⟨.text, .startsWith, .single (.text "D")⟩ ∧
      ofValue (.object [("a", .object beside)]) = .ok ⟨[("a", .joined .and [blankRead])]⟩ ∧
      ofValue (.object [("a", .object second)]) = .ok ⟨[("a", .single blankRead)]⟩ :=
  ⟨rfl, rfl, rfl⟩

end Filter

end FieldMapping
