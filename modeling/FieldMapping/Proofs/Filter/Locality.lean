import FieldMapping.Proofs.Filter.Nesting
import Mathlib.Data.List.Perm.Basic

/-! What a filter does not depend on. Readers ask a node for the keys that they know and for
nothing else, so neither the order of the members of a node nor members under other keys
make a difference, in the node of a column or in the nodes nested in it. Each column is read
for itself: in another order the columns give the same filter in that order, and the first
one that would be refused alone is what the whole is refused for. -/

namespace FieldMapping

theorem traverse_congr {α β ε : Type} {f : α → Except ε β} {as bs : List α}
    (same : List.Forall₂ (fun a b => f b = f a) as bs) : traverse f bs = traverse f as := by
  induction same with
  | nil => rfl
  | cons here _ ih => simp only [traverse, here, ih]

namespace Filter

def plainKeys : List String :=
  ["filterType", "operator", "type", "filter", "filterTo", "dateFrom", "dateTo", "values"]

def nodeKeys : List String := "conditions" :: "condition1" :: "condition2" :: plainKeys

structure Respelled (node other : Record) : Prop where
  distinct : other.Distinct
  perm : ∃ extra : Record, (∀ key ∈ extra.keys, key ∉ nodeKeys) ∧ (node ++ extra).Perm other

inductive RespelledNested : Value → Value → Prop
  | same (v : Value) : RespelledNested v v
  | node {node other : Record} (respelled : Respelled node other) :
      RespelledNested (.object node) (.object other)

inductive RespelledUnder : String → Value → Value → Prop
  | same (key : String) (v : Value) : RespelledUnder key v v
  | one {key : String} {v w : Value} (nests : key ∈ ["condition1", "condition2"])
      (nested : RespelledNested v w) : RespelledUnder key v w
  | list {vs ws : List Value} (nested : List.Forall₂ RespelledNested vs ws) :
      RespelledUnder "conditions" (.array vs) (.array ws)

def Memberwise (R : String → Value → Value → Prop) (r s : Record) : Prop :=
  List.Forall₂ (fun p q => q.1 = p.1 ∧ R p.1 p.2 q.2) r s

inductive RespelledColumn : Value → Value → Prop
  | same (v : Value) : RespelledColumn v v
  | node {node inner other : Record} (members : Memberwise RespelledUnder node inner)
      (respelled : Respelled inner other) : RespelledColumn (.object node) (.object other)

variable {column key : String} {kind : Kind} {node other : Record} {v w : Value}

theorem Respelled.get?_eq (respelled : Respelled node other) (known : key ∈ nodeKeys) :
    other.get? key = node.get? key := by
  obtain ⟨extra, unknown, perm⟩ := respelled.perm
  have distinct : Assoc.Distinct (node ++ extra) :=
    Assoc.distinct_perm respelled.distinct perm.symm
  have absent : extra.get? key = none :=
    Assoc.get?_eq_none_iff.2 fun there => unknown key there known
  rw [← Assoc.get?_perm distinct perm, Assoc.get?_append, absent, Option.or_none]

theorem mem_nodeKeys_of_plain (plain : key ∈ plainKeys) : key ∈ nodeKeys := by
  simp [nodeKeys, plain]

theorem plain_valueKey (kind : Kind) : kind.valueKey ∈ plainKeys := by
  cases kind <;> decide

theorem plain_endKey (kind : Kind) : kind.endKey ∈ plainKeys := by
  cases kind <;> decide

theorem conditionOf_congr (same : ∀ key ∈ plainKeys, other.get? key = node.get? key) :
    conditionOf column kind other = conditionOf column kind node := by
  have value := same kind.valueKey (plain_valueKey kind)
  have stop := same kind.endKey (plain_endKey kind)
  have operand : ∀ test, operandOf column kind test other = operandOf column kind test node := by
    intro test
    cases test <;> simp only [operandOf, rangeOf, value, stop]
  simp only [conditionOf, same "type" (by decide), operand]

theorem nestedOf_congr (nested : RespelledNested v w) :
    nestedOf column kind w = nestedOf column kind v := by
  cases nested with
  | same => rfl
  | node respelled =>
    have same : ∀ key ∈ plainKeys, _ := fun key plain =>
      respelled.get?_eq (mem_nodeKeys_of_plain plain)
    simp only [nestedOf, nodeOf, bind, Except.bind, same "filterType" (by decide),
      conditionOf_congr same]

theorem Memberwise.rel_get? {R : String → Value → Value → Prop} {r s : Record}
    (members : Memberwise R r s) (key : String) :
    Option.Rel (R key) (r.get? key) (s.get? key) := by
  induction members with
  | nil => exact .none
  | @cons p q _ _ member _ ih =>
    rw [Assoc.get?, Assoc.get?, member.1]
    by_cases here : p.1 = key
    · rw [if_pos here, if_pos here]
      exact .some (here ▸ member.2)
    · rw [if_neg here, if_neg here]
      exact ih

/-- Two nodes that have the same under every known key, up to the spelling of nested nodes. -/
def Alike (node other : Record) : Prop :=
  ∀ key ∈ nodeKeys, Option.Rel (RespelledUnder key) (node.get? key) (other.get? key)

theorem alike_of_respelled {inner : Record} (members : Memberwise RespelledUnder node inner)
    (respelled : Respelled inner other) : Alike node other := by
  intro key known
  rw [respelled.get?_eq known]
  exact members.rel_get? key

theorem RespelledUnder.eq_of_plain (under : RespelledUnder key v w) (plain : key ∈ plainKeys) :
    w = v := by
  have apart : ∀ key ∈ ["condition1", "condition2"], key ∉ plainKeys := by decide
  cases under with
  | same => rfl
  | one nests => exact absurd plain (apart key nests)
  | list => exact absurd plain (by decide)

theorem RespelledUnder.nested (under : RespelledUnder key v w)
    (nests : key ∈ ["condition1", "condition2"]) : RespelledNested v w := by
  cases under with
  | same => exact .same v
  | one _ nested => exact nested
  | list => exact absurd nests (by decide)

namespace Alike

theorem get?_eq (alike : Alike node other) (plain : key ∈ plainKeys) :
    other.get? key = node.get? key := by
  have found := alike key (mem_nodeKeys_of_plain plain)
  generalize node.get? key = before, other.get? key = after at found
  cases found with
  | none => rfl
  | some under => rw [under.eq_of_plain plain]

theorem has_eq (alike : Alike node other) (known : key ∈ nodeKeys) :
    other.has key = node.has key := by
  have found := alike key known
  unfold Assoc.has
  generalize node.get? key = before, other.get? key = after at found
  cases found <;> rfl

theorem isJoined_eq (alike : Alike node other) : isJoined other = isJoined node := by
  have keys : ∀ key ∈ ["operator", "conditions", "condition1"], key ∈ nodeKeys := by decide
  have same : ∀ key ∈ ["operator", "conditions", "condition1"], other.has key = node.has key :=
    fun key known => alike.has_eq (keys key known)
  simp only [isJoined, same "operator" (by decide), same "conditions" (by decide),
    same "condition1" (by decide)]

theorem nestedNodes_cases (alike : Alike node other) (column : String) :
    (∃ e, nestedNodes column node = .error e ∧ nestedNodes column other = .error e) ∨
      ∃ vs ws, nestedNodes column node = .ok vs ∧ nestedNodes column other = .ok ws ∧
        List.Forall₂ RespelledNested vs ws := by
  have pair : List.Forall₂ RespelledNested (["condition1", "condition2"].filterMap node.get?)
      (["condition1", "condition2"].filterMap other.get?) := by
    refine List.rel_filterMap (R := fun a b => a = b ∧ a ∈ ["condition1", "condition2"]) ?_
      (List.forall₂_same.2 fun key nests => ⟨rfl, nests⟩)
    rintro key _ ⟨rfl, nests⟩
    have found := alike key (by revert nests; revert key; decide)
    generalize node.get? key = before, other.get? key = after at found ⊢
    cases found with
    | none => exact .none
    | some under => exact .some (under.nested nests)
  have found := alike "conditions" (by decide)
  unfold nestedNodes
  generalize node.get? "conditions" = before, other.get? "conditions" = after at found ⊢
  cases found with
  | none => exact .inr ⟨_, _, rfl, rfl, pair⟩
  | @some v _ under =>
    cases under with
    | same =>
      cases v with
      | array nodes => exact .inr ⟨nodes, nodes, rfl, rfl, List.forall₂_same.2 fun v _ => .same v⟩
      | _ => exact .inl ⟨_, rfl, rfl⟩
    | one nests => exact absurd nests (by decide)
    | list nested => exact .inr ⟨_, _, rfl, rfl, nested⟩

theorem joinedOf_eq (alike : Alike node other) :
    joinedOf column kind other = joinedOf column kind node := by
  have operator : other.get? "operator" = node.get? "operator" := alike.get?_eq (by decide)
  rw [joinedOf, joinedOf, operator]
  rcases alike.nestedNodes_cases column with ⟨e, refused, refused'⟩ | ⟨vs, ws, listed, listed', each⟩
  · rw [refused, refused']
  · have length : ws.isEmpty = vs.isEmpty := by cases each <;> rfl
    have conditions : traverse (nestedOf column kind) ws = traverse (nestedOf column kind) vs :=
      traverse_congr (each.imp fun _ _ => nestedOf_congr)
    simp only [listed, listed', bind, Except.bind, length, conditions]

end Alike

theorem columnOf_congr (respelled : RespelledColumn v w) :
    columnOf column w = columnOf column v := by
  cases respelled with
  | same => rfl
  | node members respelled =>
    have alike := alike_of_respelled members respelled
    have plain : ∀ key ∈ plainKeys, _ := fun key => alike.get?_eq
    simp only [columnOf, nodeOf, bind, Except.bind, plain "filterType" (by decide),
      alike.isJoined_eq, alike.joinedOf_eq, conditionOf_congr plain]

theorem ofValue_congr {columns others : Record}
    (respelled : Memberwise (fun _ => RespelledColumn) columns others) :
    ofValue (.object others) = ofValue (.object columns) := by
  have each : traverse namedColumnOf others = traverse namedColumnOf columns := by
    refine traverse_congr (respelled.imp fun p q => ?_)
    rintro ⟨named, column⟩
    rw [namedColumnOf, namedColumnOf, named, columnOf_congr column]
  rw [ofValue, ofValue, each]

theorem ofValue_perm {columns others : Record} {f : Filter}
    (read : ofValue (.object columns) = .ok f) (perm : columns.Perm others) :
    ∃ g, ofValue (.object others) = .ok g ∧ Assoc.keys g.columns = others.keys ∧
      g.columns.Perm f.columns := by
  obtain ⟨_, ⟨⟩, each⟩ := ofValue_eq_ok_iff.1 read
  obtain ⟨cs, others', same⟩ :=
    List.perm_comp_forall₂ perm.symm (traverse_eq_ok_iff_forall₂.1 each)
  have read' : ofValue (.object others) = .ok ⟨cs⟩ :=
    ofValue_eq_ok_iff.2 ⟨others, rfl, traverse_eq_ok_iff_forall₂.2 others'⟩
  exact ⟨⟨cs⟩, read', names_of_ofValue read', same⟩

theorem ofValue_singleton (p : String × Value) :
    ofValue (.object [p]) = (namedColumnOf p).map fun c => ⟨[c]⟩ := by
  rw [ofValue, traverse]
  cases namedColumnOf p <;> rfl

theorem ofValue_eq_error_iff {columns : Record} {e : Error} :
    ofValue (.object columns) = .error e ↔
      ∃ before p after, columns = before ++ p :: after ∧
        (∀ q ∈ before, ∃ f, ofValue (.object [q]) = .ok f) ∧ ofValue (.object [p]) = .error e := by
  have alone : ∀ before : Record, (∀ q ∈ before, ∃ f, ofValue (.object [q]) = .ok f) ↔
      ∃ cs : List (String × Column), before.map namedColumnOf = cs.map .ok := by
    intro before
    simp only [ofValue_singleton, map_passes_iff, ← traverse_passes_iff, traverse_eq_ok_iff]
  rw [ofValue, map_eq_error_iff, traverse_eq_error_iff]
  simp only [alone]
  simp only [ofValue_singleton, map_eq_error_iff]
  constructor
  · rintro ⟨before, p, after, cs, split, read, refused⟩
    exact ⟨before, p, after, split, ⟨cs, read⟩, refused⟩
  · rintro ⟨before, p, after, split, ⟨cs, read⟩, refused⟩
    exact ⟨before, p, after, cs, split, read, refused⟩

theorem ofValue_columnwise (columns : Record) :
    (∀ others : Record, Memberwise (fun _ => RespelledColumn) columns others →
      ofValue (.object others) = ofValue (.object columns)) ∧
    (∀ (f : Filter) (others : Record), ofValue (.object columns) = .ok f → columns.Perm others →
      ∃ g, ofValue (.object others) = .ok g ∧ Assoc.keys g.columns = others.keys ∧
        g.columns.Perm f.columns) ∧
    ∀ e, ofValue (.object columns) = .error e ↔
      ∃ before p after, columns = before ++ p :: after ∧
        (∀ q ∈ before, ∃ f, ofValue (.object [q]) = .ok f) ∧ ofValue (.object [p]) = .error e := by
  refine ⟨fun others respelled => ofValue_congr respelled, fun f others read perm => ?_, fun e => ?_⟩
  · exact ofValue_perm read perm
  · exact ofValue_eq_error_iff

theorem ofValue_columnwise_for_hints :
    let number (n : UInt64) : Value := .number (.ofUInt64 n)
    let age : Record := [("filterType", .string "number"), ("type", .string "inRange"),
      ("filter", number 18), ("filterTo", number 30)]
    let age' : Record := [("filterTo", number 30), ("note", .null), ("filter", number 18),
      ("type", .string "inRange"), ("filterType", .string "number")]
    let starts : Record := [("type", .string "startsWith"), ("filter", .string "D")]
    let starts' : Record := [("filter", .string "D"), ("hint", .bool true),
      ("type", .string "startsWith")]
    let named (nested : Record) : Record := [("filterType", .string "text"),
      ("operator", .string "OR"), ("conditions", .array [.object nested, .object nested])]
    let columns : Record := [("age", .object age), ("lastName", .object (named starts))]
    let others : Record := [("age", .object age'), ("lastName", .object (named starts').reverse)]
    let f : Filter :=
      ⟨[("age", .single ⟨.number, .inRange,
          .range (.number (.ofUInt64 18)) (.number (.ofUInt64 30))⟩),
        ("lastName", .joined .or [⟨.text, .startsWith, .single (.text "D")⟩,
          ⟨.text, .startsWith, .single (.text "D")⟩])]⟩
    let refused : Record := [("age", .object age), ("a", .string "a = 1"), ("b", .null)]
    Memberwise (fun _ => RespelledColumn) columns others ∧
      ofValue (.object columns) = .ok f ∧ ofValue (.object others) = .ok f ∧
      (∃ g, ofValue (.object columns.reverse) = .ok g ∧ g.columns.Perm f.columns) ∧
      ofValue (.object refused) = .error (.rawText "a") := by
  intro number age age' starts starts' named columns others f refused
  have nested : RespelledNested (.object starts) (.object starts') :=
    .node ⟨by decide, [("hint", .bool true)], by decide, by decide⟩
  have inAge : RespelledColumn (.object age) (.object age') :=
    .node (List.forall₂_same.2 fun _ _ => ⟨rfl, .same _ _⟩)
      ⟨by decide, [("note", .null)], by decide, by decide⟩
  have members : Memberwise RespelledUnder (named starts) (named starts') :=
    .cons ⟨rfl, .same _ _⟩ (.cons ⟨rfl, .same _ _⟩
      (.cons ⟨rfl, .list (.cons nested (.cons nested .nil))⟩ .nil))
  have inName : RespelledColumn (.object (named starts)) (.object (named starts').reverse) :=
    .node members ⟨by decide, [], by decide, (List.reverse_perm (named starts')).symm⟩
  have respelled : Memberwise (fun _ => RespelledColumn) columns others :=
    .cons ⟨rfl, inAge⟩ (.cons ⟨rfl, inName⟩ .nil)
  have read : ofValue (.object columns) = .ok f := rfl
  obtain ⟨same, order, -⟩ := ofValue_columnwise columns
  obtain ⟨g, read', -, perm⟩ := order f columns.reverse read (List.reverse_perm columns).symm
  have first := ((ofValue_columnwise refused).2.2 (.rawText "a")).2
    ⟨[("age", .object age)], ("a", .string "a = 1"), [("b", .null)], rfl, by
      simp only [List.mem_singleton, forall_eq]
      exact ⟨_, rfl⟩, rfl⟩
  exact ⟨respelled, read, (same others respelled).trans read, ⟨g, read', perm⟩, first⟩

end Filter

end FieldMapping
