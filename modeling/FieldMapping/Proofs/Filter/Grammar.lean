import FieldMapping.Filter.OfValue

/-! The filters that a request may ask for, as a grammar of values: an object of nodes,
where each node is a condition of its kind or joins several of them. A value is read as
a filter exactly if it follows the grammar. Every reader passes on its part of it, and
the name of a column has no say in that. -/

namespace FieldMapping

namespace Filter

inductive Kind.Denotes : Kind → Value → Scalar → Prop
  | text (s : String) : Denotes text (.string s) (.text s)
  | number (n : Number) : Denotes number (.number n) (.number n)
  | numeral {s : String} {n : Number} (reads : Number.ofText? s = some n) :
      Denotes number (.string s) (.number n)
  | date {s : String} {m : Calendar.Moment} (reads : Calendar.Moment.ofText? s = some m) :
      Denotes date (.string s) (.date m)
  | boolean (b : Bool) : Denotes boolean (.bool b) (.boolean b)

def Kind.Holds (kind : Kind) (node : Record) (key : String) (s : Scalar) : Prop :=
  ∃ v, node.get? key = some v ∧ kind.Denotes v s

def isMember : Value → Bool
  | .string _ | .number _ | .bool _ => true
  | _ => false

/-- What a node has to hold for a test. -/
def Test.Supplied (kind : Kind) (node : Record) : Test → Prop
  | blank | notBlank => True
  | isIn => ∃ items, node.get? "values" = some (.array items) ∧ ∀ v ∈ items, isMember v = true
  | inRange => ∃ low high, kind.Holds node kind.valueKey low ∧ kind.Holds node kind.endKey high ∧
      low.compare? high ≠ some .gt
  | _ => ∃ s, kind.Holds node kind.valueKey s

inductive IsCondition (kind : Kind) (node : Record) : Prop
  | named {test : Test} (given : node.get? "type" = some (.string test.name))
      (supported : kind.supports test = true) (supplied : test.Supplied kind node)
  | unnamed (silent : node.get? "type" = none) (isSet : kind = .set)
      (supplied : Test.isIn.Supplied kind node)

def IsNested (kind : Kind) (v : Value) : Prop :=
  ∃ node : Record, v = .object node ∧
    (∀ declared, node.get? "filterType" = some declared → declared = .string kind.name) ∧
    IsCondition kind node

/-- The nodes nested in a node, in one list or else under two names. -/
inductive Nests (node : Record) : List Value → Prop
  | list {nodes : List Value} (listed : node.get? "conditions" = some (.array nodes)) :
      Nests node nodes
  | pair (unlisted : node.get? "conditions" = none) :
      Nests node (["condition1", "condition2"].filterMap node.get?)

inductive IsColumn : Value → Prop
  | single {node : Record} {kind : Kind}
      (declared : node.get? "filterType" = some (.string kind.name))
      (alone : ∀ key ∈ ["operator", "conditions", "condition1"], node.get? key = none)
      (condition : IsCondition kind node) : IsColumn (.object node)
  | joined {node : Record} {kind : Kind} {operator : String} {connective : Connective}
      {nodes : List Value}
      (declared : node.get? "filterType" = some (.string kind.name))
      (joins : node.get? "operator" = some (.string operator))
      (spelled : String.ofList (operator.toList.map Char.toLower) = connective.name)
      (nests : Nests node nodes) (nonempty : nodes ≠ [])
      (nested : ∀ v ∈ nodes, IsNested kind v) : IsColumn (.object node)

theorem Kind.eq_set_of_supports {k : Kind} (supported : k.supports .isIn = true) : k = .set := by
  cases k <;> first | rfl | contradiction

variable (column : String) {argument : String} {kind : Kind} {node : Record} {found : Option Value}

theorem scalarOf_eq_ok_iff {s : Scalar} :
    scalarOf column kind argument found = .ok s ↔ ∃ v, found = some v ∧ kind.Denotes v s := by
  constructor
  · intro ok
    unfold scalarOf at ok
    split at ok
    · cases ok
    · cases ok
    · next v _ =>
      refine ⟨v, rfl, ?_⟩
      split at ok
      · cases ok
        exact .text _
      · cases ok
        exact .number _
      · split at ok <;> cases ok
        next reads => exact .numeral reads
      · split at ok <;> cases ok
        next reads => exact .date reads
      · cases ok
        exact .boolean _
      · cases ok
  · rintro ⟨v, rfl, denotes⟩
    cases denotes with
    | text | number | boolean => rfl
    | numeral reads | date reads => simp [scalarOf, reads]

theorem memberOf_passes_iff {v : Value} :
    (∃ s, memberOf column v = .ok s) ↔ isMember v = true := by
  cases v <;> simp [memberOf, isMember]

theorem listOf_passes_iff :
    (∃ ss, listOf column found = .ok ss) ↔
      ∃ items, found = some (.array items) ∧ ∀ v ∈ items, isMember v = true := by
  rcases found with _ | v
  · simp [listOf]
  · cases v <;> simp [listOf, traverse_passes_iff, memberOf_passes_iff]

theorem rangeOf_passes_iff :
    (∃ operand, rangeOf column kind node = .ok operand) ↔ Test.inRange.Supplied kind node := by
  simp only [rangeOf_eq_ok_iff, scalarOf_eq_ok_iff]
  constructor
  · rintro ⟨operand, low, high, start, stop, upwards, -⟩
    exact ⟨low, high, start, stop, upwards⟩
  · rintro ⟨low, high, start, stop, upwards⟩
    exact ⟨_, low, high, start, stop, upwards, rfl⟩

theorem operandOf_passes_iff {test : Test} (supported : kind.supports test = true) :
    (∃ operand, operandOf column kind test node = .ok operand) ↔ test.Supplied kind node := by
  cases test with
  | blank | notBlank => simp [operandOf, Test.Supplied]
  | isIn =>
    -- no other kind has this test, so the key of the value is the one for lists
    have isSet : kind = .set := Kind.eq_set_of_supports supported
    subst isSet
    exact map_passes_iff.trans (listOf_passes_iff column)
  | inRange => exact rangeOf_passes_iff column
  | _ => exact map_passes_iff.trans (exists_congr fun _ => scalarOf_eq_ok_iff column)

theorem testOf_eq_ok_iff {test : Test} :
    testOf column kind found = .ok test ↔
      found = some (.string test.name) ∨ found = none ∧ kind = .set ∧ test = .isIn := by
  constructor
  · intro ok
    unfold testOf at ok
    split at ok
    · split at ok <;> cases ok
      next isSet => exact .inr ⟨rfl, isSet, rfl⟩
    · next s =>
      split at ok <;> cases ok
      next reads => exact .inl (by rw [Test.name_of_ofName? reads])
    · cases ok
  · rintro (rfl | ⟨rfl, rfl, rfl⟩)
    · simp [testOf, Test.ofName?_name]
    · rfl

theorem conditionOf_passes_iff :
    (∃ c, conditionOf column kind node = .ok c) ↔ IsCondition kind node := by
  simp only [conditionOf_eq_ok_iff, testOf_eq_ok_iff]
  constructor
  · rintro ⟨c, rfl, given | ⟨silent, isSet, only⟩, supported, read⟩
    · exact .named given supported ((operandOf_passes_iff column supported).1 ⟨_, read⟩)
    · rw [only] at supported read
      exact .unnamed silent isSet ((operandOf_passes_iff column supported).1 ⟨_, read⟩)
  · rintro (⟨given, supported, supplied⟩ | ⟨silent, isSet, supplied⟩)
    · obtain ⟨operand, read⟩ := (operandOf_passes_iff column supported).2 supplied
      exact ⟨⟨kind, _, operand⟩, rfl, .inl given, supported, read⟩
    · subst isSet
      have supported : Kind.set.supports .isIn = true := rfl
      obtain ⟨operand, read⟩ := (operandOf_passes_iff column supported).2 supplied
      exact ⟨⟨.set, .isIn, operand⟩, rfl, .inr ⟨silent, rfl, rfl⟩, supported, read⟩

theorem nestedOf_passes_iff {v : Value} :
    (∃ c, nestedOf column kind v = .ok c) ↔ IsNested kind v := by
  simp only [nestedOf_eq_ok_iff, IsNested, ← conditionOf_passes_iff column]
  constructor
  · rintro ⟨c, node, object, agrees, made⟩
    exact ⟨node, object, agrees, c, made⟩
  · rintro ⟨node, object, agrees, c, made⟩
    exact ⟨c, node, object, agrees, made⟩

theorem Connective.ofName?_eq_some_iff {s : String} {c : Connective} :
    Connective.ofName? s = some c ↔ String.ofList (s.toList.map Char.toLower) = c.name := by
  unfold Connective.ofName?
  cases c <;> simp only [Connective.name] <;> split <;> simp_all

theorem connectiveOf_eq_ok_iff {c : Connective} :
    connectiveOf column found = .ok c ↔
      ∃ s, found = some (.string s) ∧ String.ofList (s.toList.map Char.toLower) = c.name := by
  simp only [← Connective.ofName?_eq_some_iff]
  constructor
  · intro ok
    unfold connectiveOf at ok
    split at ok
    · cases ok
    · next s =>
      split at ok <;> cases ok
      next reads => exact ⟨s, rfl, reads⟩
    · cases ok
  · rintro ⟨s, rfl, reads⟩
    simp [connectiveOf, reads]

theorem nestedNodes_eq_ok_iff {nodes : List Value} :
    nestedNodes column node = .ok nodes ↔ Nests node nodes := by
  constructor
  · intro ok
    unfold nestedNodes at ok
    split at ok <;> cases ok
    · next listed => exact .list listed
    · next unlisted => exact .pair unlisted
  · rintro (listed | unlisted)
    · simp [nestedNodes, listed]
    · simp [nestedNodes, unlisted]

theorem isJoined_eq_false_iff :
    isJoined node = false ↔
      ∀ key ∈ ["operator", "conditions", "condition1"], node.get? key = none := by
  simp [isJoined, Assoc.has, and_assoc]

theorem joinedOf_passes_iff :
    (∃ c, joinedOf column kind node = .ok c) ↔
      ∃ operator connective nodes, node.get? "operator" = some (.string operator) ∧
        String.ofList (operator.toList.map Char.toLower) = Connective.name connective ∧
        Nests node nodes ∧ nodes ≠ [] ∧ ∀ v ∈ nodes, IsNested kind v := by
  simp only [joinedOf_eq_ok_iff, connectiveOf_eq_ok_iff, nestedNodes_eq_ok_iff,
    ← nestedOf_passes_iff column, ← traverse_passes_iff]
  constructor
  · rintro ⟨c, connective, nodes, conditions, ⟨operator, joins, spelled⟩, nests, nonempty, read, -⟩
    exact ⟨operator, connective, nodes, joins, spelled, nests, nonempty, conditions, read⟩
  · rintro ⟨operator, connective, nodes, joins, spelled, nests, nonempty, conditions, read⟩
    exact ⟨_, connective, nodes, conditions, ⟨operator, joins, spelled⟩, nests, nonempty, read,
      rfl⟩

theorem columnOf_passes_iff {v : Value} : (∃ c, columnOf column v = .ok c) ↔ IsColumn v := by
  simp only [columnOf_eq_ok_iff]
  constructor
  · rintro ⟨c, node, kind, rfl, declared, ⟨-, read⟩ | ⟨alone, condition, made, -⟩⟩
    · obtain ⟨operator, connective, nodes, joins, spelled, nests, nonempty, nested⟩ :=
        (joinedOf_passes_iff column).1 ⟨c, read⟩
      exact .joined declared joins spelled nests nonempty nested
    · exact .single declared (isJoined_eq_false_iff.1 alone)
        ((conditionOf_passes_iff column).1 ⟨condition, made⟩)
  · intro valid
    cases valid with
    | @single node kind declared alone condition =>
      obtain ⟨c, made⟩ := (conditionOf_passes_iff column).2 condition
      exact ⟨.single c, node, kind, rfl, declared,
        .inr ⟨isJoined_eq_false_iff.2 alone, c, made, rfl⟩⟩
    | @joined node kind operator connective nodes declared joins spelled nests nonempty nested =>
      have joined : isJoined node = true := by simp [isJoined, Assoc.has, joins]
      obtain ⟨c, read⟩ := (joinedOf_passes_iff column).2
        ⟨operator, connective, nodes, joins, spelled, nests, nonempty, nested⟩
      exact ⟨c, node, kind, rfl, declared, .inl ⟨joined, read⟩⟩

theorem namedColumnOf_passes_iff {p : String × Value} :
    (∃ q, namedColumnOf p = .ok q) ↔ IsColumn p.2 :=
  map_passes_iff.trans (columnOf_passes_iff p.1)

/-- A value is read exactly if it is an object whose members are columns. -/
theorem ofValue_passes_iff (v : Value) :
    (∃ f, ofValue v = .ok f) ↔
      ∃ columns : Record, v = .object columns ∧ ∀ p ∈ columns, IsColumn p.2 := by
  simp only [← namedColumnOf_passes_iff, ← traverse_passes_iff]
  cases v with
  | object columns => simp [ofValue, map_passes_iff]
  | _ => simp [ofValue]

end Filter

end FieldMapping
