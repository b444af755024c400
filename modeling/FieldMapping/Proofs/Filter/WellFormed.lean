import FieldMapping.Proofs.Filter.Grammar

/-! Every filter that was read is well formed, so nothing that comes after has to look
again. A condition tests what its kind supports, its test decides the form of the
operand, the operand holds values of the kind, and a range runs upwards. -/

namespace FieldMapping

namespace Filter

inductive Shape where
  | none | single | range | list
deriving DecidableEq

def Operand.shape : Operand → Shape
  | none => .none
  | single _ => .single
  | range _ _ => .range
  | list _ => .list

def Operand.scalars : Operand → List Scalar
  | none => []
  | single value => [value]
  | range low high => [low, high]
  | list values => values

def Test.shape : Test → Shape
  | blank | notBlank => .none
  | isIn => .list
  | inRange => .range
  | _ => .single

def Scalar.kind : Scalar → Kind
  | text _ => .text
  | number _ => .number
  | date _ => .date
  | boolean _ => .boolean

/-- A set may hold scalars of every kind but dates. -/
def Kind.Admits : Kind → Scalar → Prop
  | set, s => s.kind ≠ .date
  | k, s => s.kind = k

structure Condition.WellFormed (c : Condition) : Prop where
  supported : c.kind.supports c.test = true
  shaped : c.operand.shape = c.test.shape
  typed : ∀ s ∈ c.operand.scalars, c.kind.Admits s
  ordered : ∀ low high, c.operand = .range low high → ∃ o, low.compare? high = some o ∧ o ≠ .gt

structure Column.WellFormed (kind : Kind) (column : Column) : Prop where
  nonempty : column.conditions ≠ []
  kinds : ∀ c ∈ column.conditions, c.kind = kind
  conditions : ∀ c ∈ column.conditions, c.WellFormed

end Filter

structure Filter.WellFormed (columns : Record) (f : Filter) : Prop where
  names : Assoc.keys f.columns = columns.keys
  distinct : (Assoc.keys f.columns).Nodup
  columns : ∀ name c, (name, c) ∈ f.columns → ∃ (node : Record) (kind : Filter.Kind),
    columns.get? name = some (.object node) ∧
      node.get? "filterType" = some (.string kind.name) ∧ c.WellFormed kind

namespace Filter

theorem Kind.comparable {k : Kind} (supported : k.supports .inRange = true) {low high : Scalar}
    (hlow : k.Admits low) (hhigh : k.Admits high) : ∃ o, low.compare? high = some o := by
  cases k with
  | number =>
    cases low <;> cases high <;> simp_all [Admits, Scalar.kind, Scalar.compare?]
  | date =>
    cases low <;> cases high <;> simp_all [Admits, Scalar.kind, Scalar.compare?]
  | text | set | boolean => contradiction

variable {column argument : String} {kind : Kind} {node : Record} {found : Option Value}

theorem Kind.Denotes.admits {v : Value} {s : Scalar} (denotes : kind.Denotes v s) :
    kind.Admits s := by
  cases denotes <;> rfl

theorem scalarOf_admits {s : Scalar} (ok : scalarOf column kind argument found = .ok s) :
    kind.Admits s := by
  obtain ⟨v, -, denotes⟩ := (scalarOf_eq_ok_iff column).1 ok
  exact denotes.admits

theorem memberOf_admits {v : Value} {s : Scalar} (ok : memberOf column v = .ok s) :
    Kind.set.Admits s := by
  cases v <;> simp [memberOf] at ok <;> subst ok <;> simp [Kind.Admits, Scalar.kind]

theorem listOf_admits {ss : List Scalar} (ok : listOf column found = .ok ss) :
    ∀ s ∈ ss, Kind.set.Admits s := by
  intro s hs
  unfold listOf at ok
  split at ok
  · simp at ok
  · simp at ok
  · obtain ⟨v, -, read⟩ := exists_mem_of_traverse ok hs
    exact memberOf_admits read
  · simp at ok

theorem operandOf_wellFormed {test : Test} {operand : Operand}
    (supported : kind.supports test = true) (ok : operandOf column kind test node = .ok operand) :
    Condition.WellFormed ⟨kind, test, operand⟩ := by
  cases test with
  | blank | notBlank =>
    have made : operand = .none := by simpa [operandOf] using ok.symm
    subst made
    exact ⟨supported, rfl, by simp [Operand.scalars], by simp⟩
  | isIn =>
    obtain ⟨values, read, rfl⟩ := map_eq_ok_iff.1 ok
    have isSet : kind = .set := Kind.eq_set_of_supports supported
    subst isSet
    exact ⟨supported, rfl, listOf_admits read, by simp⟩
  | inRange =>
    obtain ⟨low, high, start, stop, upwards, rfl⟩ := rangeOf_eq_ok_iff.1 ok
    have hlow : kind.Admits low := scalarOf_admits start
    have hhigh : kind.Admits high := scalarOf_admits stop
    refine ⟨supported, rfl, ?_, ?_⟩
    · simpa [Operand.scalars] using ⟨hlow, hhigh⟩
    · rintro _ _ ⟨⟩
      obtain ⟨o, order⟩ := Kind.comparable supported hlow hhigh
      refine ⟨o, order, ?_⟩
      rintro rfl
      exact upwards order
  | _ =>
    obtain ⟨value, read, rfl⟩ := map_eq_ok_iff.1 ok
    refine ⟨supported, rfl, ?_, by simp⟩
    simpa [Operand.scalars] using scalarOf_admits read

theorem conditionOf_wellFormed {c : Condition} (ok : conditionOf column kind node = .ok c) :
    c.kind = kind ∧ c.WellFormed := by
  obtain ⟨rfl, -, supported, read⟩ := conditionOf_eq_ok_iff.1 ok
  exact ⟨rfl, operandOf_wellFormed supported read⟩

theorem joinedOf_wellFormed {c : Column} (ok : joinedOf column kind node = .ok c) :
    c.WellFormed kind := by
  obtain ⟨connective, nodes, conditions, -, -, some, read, rfl⟩ := joinedOf_eq_ok_iff.1 ok
  have each : ∀ x ∈ conditions, x.kind = kind ∧ x.WellFormed := by
    intro x hx
    obtain ⟨v, -, nested⟩ := exists_mem_of_traverse read hx
    obtain ⟨node, -, -, made⟩ := nestedOf_eq_ok_iff.1 nested
    exact conditionOf_wellFormed made
  have length := length_of_traverse read
  refine ⟨?_, fun x hx => (each x hx).1, fun x hx => (each x hx).2⟩
  rintro rfl
  exact some (List.length_eq_zero_iff.1 length.symm)

theorem columnOf_wellFormed {v : Value} {c : Column} (ok : columnOf column v = .ok c) :
    ∃ (node : Record) (kind : Kind), v = .object node ∧
      node.get? "filterType" = some (.string kind.name) ∧ c.WellFormed kind := by
  rcases columnOf_eq_ok_iff.1 ok with ⟨node, kind, rfl, declared, ⟨-, joined⟩ | ⟨-, x, made, rfl⟩⟩
  · exact ⟨node, kind, rfl, declared, joinedOf_wellFormed joined⟩
  · have well := conditionOf_wellFormed made
    refine ⟨node, kind, rfl, declared, ?_⟩
    constructor <;> simp [Column.conditions, well.1, well.2]

theorem ofValue_wellFormed {v : Value} {f : Filter} (proper : v.isProper = true)
    (ok : ofValue v = .ok f) : ∃ columns, v = .object columns ∧ f.WellFormed columns := by
  obtain ⟨columns, rfl, read⟩ := ofValue_eq_ok_iff.1 ok
  have names := names_of_ofValue ok
  have distinct : columns.Distinct := Value.distinct_of_isProper proper
  refine ⟨columns, rfl, names, names ▸ distinct, ?_⟩
  intro name c hc
  obtain ⟨p, hp, step⟩ := exists_mem_of_traverse read hc
  have named := namedColumnOf_eq_ok_iff.1 step
  obtain ⟨node, kind, object, declared, well⟩ := columnOf_wellFormed named.2
  have here : (name, .object node) ∈ columns := by
    have same : name = p.1 := named.1
    rw [same, ← object]
    exact hp
  exact ⟨node, kind, Assoc.get?_of_mem distinct here, declared, well⟩

def adults : Value :=
  .object
    [("age", .object [("filterType", .string "number"), ("type", .string "inRange"),
        ("filter", .number (.ofUInt64 18)), ("filterTo", .string "30")]),
     ("lastName", .object [("filterType", .string "text"), ("operator", .string "OR"),
        ("condition1", .object [("type", .string "startsWith"), ("filter", .string "D")]),
        ("condition2", .object [("type", .string "blank")])]),
     ("status", .object [("filterType", .string "set"),
        ("values", .array [.string "active", .number (.ofUInt64 2)])])]

def adultsRead : Filter :=
  ⟨[("age", .single ⟨.number, .inRange, .range (.number (.ofUInt64 18)) (.number (.ofUInt64 30))⟩),
    ("lastName", .joined .or [⟨.text, .startsWith, .single (.text "D")⟩, ⟨.text, .blank, .none⟩]),
    ("status", .single ⟨.set, .isIn, .list [.text "active", .number (.ofUInt64 2)]⟩)]⟩

theorem ofValue_wellFormed_for_adults :
    adults.isProper = true ∧ ofValue adults = .ok adultsRead ∧
      ∃ columns, adults = .object columns ∧ adultsRead.WellFormed columns := by
  have proper : adults.isProper = true := by decide
  have read : ofValue adults = .ok adultsRead := rfl
  exact ⟨proper, read, ofValue_wellFormed proper read⟩

end Filter

end FieldMapping
