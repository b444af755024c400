import FieldMapping.Filter.Error
import FieldMapping.Json.Text
import FieldMapping.Traverse

/-! Filters as they arrive: an object with one node for each column. A node is a
condition, or has an operator and nested conditions, in a list or under the two
names `condition1` and `condition2`. Checks run in the order written here, and
the first that fails is the answer. -/

namespace FieldMapping.Filter

def Kind.valueKey : Kind → String
  | .date => "dateFrom"
  | .set => "values"
  | _ => "filter"

def Kind.endKey : Kind → String
  | .date => "dateTo"
  | _ => "filterTo"

def nodeOf (column : String) : Value → Except Error Record
  | .object ms => .ok ms
  | .string _ => .error (.rawText column)
  | v => .error (.invalid column "filter" (.notObject v.kind))

def kindOf (column : String) : Option Value → Except Error Kind
  | none => .error (.missing column "filterType")
  | some (.string s) =>
    match Kind.ofName? s with
    | some k => .ok k
    | none => .error (.unknownKind column s)
  | some v => .error (.untypedKind column v.kind)

/-- Only a set may leave its test out. -/
def testOf (column : String) (kind : Kind) : Option Value → Except Error Test
  | none => if kind = .set then .ok .isIn else .error (.missing column "type")
  | some (.string s) =>
    match Test.ofName? s with
    | some t => .ok t
    | none => .error (.unknownOperator column s)
  | some v => .error (.unknownOperator column (Json.render v))

def scalarOf (column : String) (kind : Kind) (argument : String) :
    Option Value → Except Error Scalar
  | none | some .null => .error (.missing column argument)
  | some v =>
    match kind, v with
    | .text, .string s => .ok (.text s)
    | .number, .number n => .ok (.number n)
    | .number, .string s =>
      match Number.ofText? s with
      | some n => .ok (.number n)
      | none => .error (.invalid column argument (.notNumber s))
    | .date, .string s =>
      match Calendar.Moment.ofText? s with
      | some m => .ok (.date m)
      | none => .error (.invalid column argument (.notDate s))
    | .boolean, .bool b => .ok (.boolean b)
    | _, _ => .error (.invalid column argument (.notOfKind kind v.kind))

/-- Members of a set keep the kind they come in. -/
def memberOf (column : String) : Value → Except Error Scalar
  | .string s => .ok (.text s)
  | .number n => .ok (.number n)
  | .bool b => .ok (.boolean b)
  | v => .error (.invalid column "values" (.notScalar v.kind))

def listOf (column : String) : Option Value → Except Error (List Scalar)
  | none | some .null => .error (.missing column "values")
  | some (.array items) => traverse (memberOf column) items
  | some v => .error (.invalid column "values" (.notArray v.kind))

/-- Ends that cannot be compared, or are equal, make a range too. -/
def rangeOf (column : String) (kind : Kind) (node : Record) : Except Error Operand := do
  let low ← scalarOf column kind kind.valueKey (node.get? kind.valueKey)
  let high ← scalarOf column kind kind.endKey (node.get? kind.endKey)
  if low.compare? high = some .gt then .error (.invalid column kind.endKey .reversedRange)
  else .ok (.range low high)

def operandOf (column : String) (kind : Kind) (test : Test) (node : Record) :
    Except Error Operand :=
  match test with
  | .blank | .notBlank => .ok .none
  | .isIn => (listOf column (node.get? kind.valueKey)).map .list
  | .inRange => rangeOf column kind node
  | _ => (scalarOf column kind kind.valueKey (node.get? kind.valueKey)).map .single

def conditionOf (column : String) (kind : Kind) (node : Record) : Except Error Condition := do
  let test ← testOf column kind (node.get? "type")
  if kind.supports test then
    let operand ← operandOf column kind test node
    .ok ⟨kind, test, operand⟩
  else .error (.unsupported column kind test)

/-- `condition2` alone does not make a node a joined one. -/
def isJoined (node : Record) : Bool :=
  node.has "operator" || node.has "conditions" || node.has "condition1"

def connectiveOf (column : String) : Option Value → Except Error Connective
  | none => .error (.missing column "operator")
  | some (.string s) =>
    match Connective.ofName? s with
    | some c => .ok c
    | none => .error (.unknownOperator column s)
  | some v => .error (.unknownOperator column (Json.render v))

/-- The list wins over the two names, whatever it holds. -/
def nestedNodes (column : String) (node : Record) : Except Error (List Value) :=
  match node.get? "conditions" with
  | some (.array items) => .ok items
  | some v => .error (.invalid column "conditions" (.notArray v.kind))
  | none => .ok (["condition1", "condition2"].filterMap node.get?)

/-- A nested node may repeat the kind of its column but not change it. -/
def nestedOf (column : String) (kind : Kind) (v : Value) : Except Error Condition := do
  let node ← nodeOf column v
  match node.get? "filterType" with
  | none => conditionOf column kind node
  | some declared => do
    let nested ← kindOf column (some declared)
    if nested = kind then conditionOf column kind node
    else .error (.mixedKinds column kind nested)

def joinedOf (column : String) (kind : Kind) (node : Record) : Except Error Column := do
  let connective ← connectiveOf column (node.get? "operator")
  let nodes ← nestedNodes column node
  if nodes.isEmpty then .error (.missing column "conditions")
  else
    let conditions ← traverse (nestedOf column kind) nodes
    .ok (.joined connective conditions)

def columnOf (column : String) (v : Value) : Except Error Column := do
  let node ← nodeOf column v
  let kind ← kindOf column (node.get? "filterType")
  if isJoined node then joinedOf column kind node
  else (conditionOf column kind node).map .single

def namedColumnOf (p : String × Value) : Except Error (String × Column) :=
  (columnOf p.1 p.2).map fun c => (p.1, c)

def ofValue : Value → Except Error Filter
  | .object columns => (traverse namedColumnOf columns).map fun cs => ⟨cs⟩
  | .string _ => .error (.rawText "filters")
  | v => .error (.invalid "filters" "filters" (.notObject v.kind))

theorem nodeOf_eq_ok_iff {column : String} {v : Value} {node : Record} :
    nodeOf column v = .ok node ↔ v = .object node := by
  cases v <;> simp [nodeOf]

theorem kindOf_eq_ok_iff {column : String} {found : Option Value} {kind : Kind} :
    kindOf column found = .ok kind ↔ found = some (.string kind.name) := by
  constructor
  · intro ok
    unfold kindOf at ok
    split at ok
    · simp at ok
    · next s =>
      split at ok
      · next k hk =>
        have same : k = kind := by simpa using ok
        rw [← same, Kind.name_of_ofName? hk]
      · simp at ok
    · simp at ok
  · rintro rfl
    simp [kindOf, Kind.ofName?_name]

theorem rangeOf_eq_ok_iff {column : String} {kind : Kind} {node : Record} {operand : Operand} :
    rangeOf column kind node = .ok operand ↔
      ∃ low high, scalarOf column kind kind.valueKey (node.get? kind.valueKey) = .ok low ∧
        scalarOf column kind kind.endKey (node.get? kind.endKey) = .ok high ∧
        low.compare? high ≠ some .gt ∧ .range low high = operand := by
  simp only [rangeOf, bind_eq_ok_iff, ← exists_and_left]
  refine exists_congr fun low => exists_congr fun high => ?_
  split <;> simp_all

theorem conditionOf_eq_ok_iff {column : String} {kind : Kind} {node : Record} {c : Condition} :
    conditionOf column kind node = .ok c ↔
      c.kind = kind ∧ testOf column kind (node.get? "type") = .ok c.test ∧
        kind.supports c.test = true ∧ operandOf column kind c.test node = .ok c.operand := by
  rw [conditionOf, bind_eq_ok_iff]
  constructor
  · rintro ⟨test, named, rest⟩
    split at rest
    · next supported =>
      obtain ⟨operand, read, made⟩ := bind_eq_ok_iff.1 rest
      cases made
      exact ⟨rfl, named, supported, read⟩
    · simp at rest
  · rintro ⟨rfl, named, supported, read⟩
    refine ⟨c.test, named, ?_⟩
    rw [if_pos supported, bind_eq_ok_iff]
    exact ⟨c.operand, read, rfl⟩

theorem nestedOf_eq_ok_iff {column : String} {kind : Kind} {v : Value} {c : Condition} :
    nestedOf column kind v = .ok c ↔
      ∃ node : Record, v = .object node ∧
        (∀ declared, node.get? "filterType" = some declared → declared = .string kind.name) ∧
        conditionOf column kind node = .ok c := by
  simp only [nestedOf, bind_eq_ok_iff, nodeOf_eq_ok_iff]
  refine exists_congr fun node => and_congr_right fun _ => ?_
  cases node.get? "filterType" with
  | none => simp
  | some declared =>
    simp only [bind_eq_ok_iff, kindOf_eq_ok_iff, Option.some.injEq, forall_eq']
    constructor
    · rintro ⟨nested, rfl, rest⟩
      split at rest
      · next same => exact ⟨same ▸ rfl, rest⟩
      · simp at rest
    · rintro ⟨rfl, ok⟩
      exact ⟨kind, rfl, by rwa [if_pos rfl]⟩

theorem joinedOf_eq_ok_iff {column : String} {kind : Kind} {node : Record} {c : Column} :
    joinedOf column kind node = .ok c ↔
      ∃ connective nodes conditions, connectiveOf column (node.get? "operator") = .ok connective ∧
        nestedNodes column node = .ok nodes ∧ nodes ≠ [] ∧
        traverse (nestedOf column kind) nodes = .ok conditions ∧
        .joined connective conditions = c := by
  simp only [joinedOf, bind_eq_ok_iff]
  constructor
  · rintro ⟨connective, joined, nodes, listed, rest⟩
    split at rest
    · simp at rest
    · next some =>
      obtain ⟨conditions, read, made⟩ := bind_eq_ok_iff.1 rest
      exact ⟨connective, nodes, conditions, joined, listed, by simpa using some, read,
        by simpa using made⟩
  · rintro ⟨connective, nodes, conditions, joined, listed, some, read, rfl⟩
    refine ⟨connective, joined, nodes, listed, ?_⟩
    rw [if_neg (by simpa using some), bind_eq_ok_iff]
    exact ⟨conditions, read, rfl⟩

theorem columnOf_eq_ok_iff {column : String} {v : Value} {c : Column} :
    columnOf column v = .ok c ↔
      ∃ (node : Record) (kind : Kind), v = .object node ∧
        node.get? "filterType" = some (.string kind.name) ∧
        (isJoined node = true ∧ joinedOf column kind node = .ok c ∨
          isJoined node = false ∧
            ∃ condition, conditionOf column kind node = .ok condition ∧ .single condition = c) := by
  simp only [columnOf, bind_eq_ok_iff, nodeOf_eq_ok_iff, kindOf_eq_ok_iff, ← exists_and_left]
  refine exists_congr fun node => exists_congr fun kind => ?_
  cases isJoined node <;> simp [map_eq_ok_iff]

theorem namedColumnOf_eq_ok_iff {p : String × Value} {q : String × Column} :
    namedColumnOf p = .ok q ↔ q.1 = p.1 ∧ columnOf p.1 p.2 = .ok q.2 := by
  rw [namedColumnOf, map_eq_ok_iff]
  constructor
  · rintro ⟨c, ok, rfl⟩
    exact ⟨rfl, ok⟩
  · rintro ⟨name, ok⟩
    exact ⟨q.2, ok, by rw [← name]⟩

theorem ofValue_eq_ok_iff {v : Value} {f : Filter} :
    ofValue v = .ok f ↔
      ∃ columns : Record, v = .object columns ∧ traverse namedColumnOf columns = .ok f.columns := by
  cases v with
  | object columns =>
    simp only [ofValue, map_eq_ok_iff, Value.object.injEq, exists_eq_left']
    constructor
    · rintro ⟨cs, ok, rfl⟩
      exact ok
    · intro ok
      exact ⟨f.columns, ok, rfl⟩
  | _ => simp [ofValue]

theorem names_of_ofValue {columns : Record} {f : Filter} (ok : ofValue (.object columns) = .ok f) :
    Assoc.keys f.columns = columns.keys := by
  obtain ⟨_, same, read⟩ := ofValue_eq_ok_iff.1 ok
  cases same
  exact map_of_traverse (fun _ _ step => (namedColumnOf_eq_ok_iff.1 step).1) read

end FieldMapping.Filter
