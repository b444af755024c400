import FieldMapping.Proofs.Filter.Grammar

/-! What a refused filter is refused for. An error names a column, and the defect it tells of
is to be seen there: in the node of the column or in one that is nested in it. Only what is no
object of columns is refused as a whole, under the name `filters`. Errors about fields do not
come up, as reading a filter takes no layout. -/

namespace FieldMapping

namespace Filter

def Error.column : Error → String
  | missing column _ | invalid column _ _ | unknownOperator column _ | unknownColumn _ column
  | unsupported column _ _ | unknownKind column _ | untypedKind column _ | mixedKinds column _ _
  | rawText column | prohibited column | impossible column _ => column

/-- Errors that take a layout to come up. -/
def Error.isOfLayout : Error → Bool
  | unknownColumn _ _ | prohibited _ | impossible _ _ => true
  | _ => false

def Test.keys (kind : Kind) : Test → List String
  | blank | notBlank => []
  | inRange => [kind.valueKey, kind.endKey]
  | _ => [kind.valueKey]

def Test.Given (kind : Kind) (node : Record) (test : Test) : Prop :=
  node.get? "type" = some (.string test.name) ∨
    node.get? "type" = none ∧ kind = .set ∧ test = .isIn

def Kind.forms : Kind → List Value.Kind
  | text | date => [.string]
  | number => [.number, .string]
  | boolean => [.boolean]
  | set => []

inductive Kind.Refuses : Kind → Value → Defect → Prop
  | notOfKind {kind : Kind} {v : Value} (single : kind ≠ .set) (other : v.kind ∉ kind.forms) :
      Refuses kind v (.notOfKind kind v.kind)
  | notNumber {s : String} (unread : Number.ofText? s = none) :
      Refuses number (.string s) (.notNumber s)
  | notDate {s : String} (unread : Calendar.Moment.ofText? s = none) :
      Refuses date (.string s) (.notDate s)
  | notArray {v : Value} (other : v.kind ≠ .array) : Refuses set v (.notArray v.kind)
  | notScalar {items : List Value} {v : Value} (member : v ∈ items) (other : isMember v = false) :
      Refuses set (.array items) (.notScalar v.kind)

inductive Kind.Unread (column key : String) (kind : Kind) : Option Value → Error → Prop
  | absent : Unread column key kind none (.missing column key)
  | null : Unread column key kind (some .null) (.missing column key)
  | refused {v : Value} {defect : Defect} (present : v ≠ .null) (refuses : kind.Refuses v defect) :
      Unread column key kind (some v) (.invalid column key defect)

def spelled : Value → String
  | .string s => s
  | v => Json.render v

inductive IsNodeOf : Value → Value → Prop
  | own (v : Value) : IsNodeOf v v
  | nested {own : Record} {nodes : List Value} {v : Value} (nests : Nests own nodes)
      (member : v ∈ nodes) : IsNodeOf (.object own) v

/-- What an error about a column tells of a node. The first value is the node of the column,
which declares the kind for those nested in it, and the second the node with the defect. -/
inductive Shows (column : String) : Value → Value → Error → Prop
  | rawText (own : Value) (s : String) : Shows column own (.string s) (.rawText column)
  | notObject (own : Value) {v : Value} (other : v.kind ∉ [.object, .string]) :
      Shows column own v (.invalid column "filter" (.notObject v.kind))
  | noKind {own : Record} (absent : own.get? "filterType" = none) :
      Shows column (.object own) (.object own) (.missing column "filterType")
  | unknownKind (own : Value) {node : Record} {s : String}
      (given : node.get? "filterType" = some (.string s)) (unknown : ∀ k : Kind, k.name ≠ s) :
      Shows column own (.object node) (.unknownKind column s)
  | untypedKind (own : Value) {node : Record} {v : Value}
      (given : node.get? "filterType" = some v) (other : v.kind ≠ .string) :
      Shows column own (.object node) (.untypedKind column v.kind)
  | mixedKinds {own node : Record} {kind nested : Kind}
      (declared : own.get? "filterType" = some (.string kind.name))
      (given : node.get? "filterType" = some (.string nested.name)) (apart : nested ≠ kind) :
      Shows column (.object own) (.object node) (.mixedKinds column kind nested)
  | noConnective {own : Record} (absent : own.get? "operator" = none)
      (joined : ∃ key ∈ ["conditions", "condition1"], own.get? key ≠ none) :
      Shows column (.object own) (.object own) (.missing column "operator")
  | unknownConnective {own : Record} {v : Value} (given : own.get? "operator" = some v)
      (unknown : ∀ (s : String) (connective : Connective),
        String.ofList (s.toList.map Char.toLower) = connective.name → v ≠ .string s) :
      Shows column (.object own) (.object own) (.unknownOperator column (spelled v))
  | unlisted {own : Record} {v : Value} (given : own.get? "conditions" = some v)
      (other : v.kind ≠ .array) :
      Shows column (.object own) (.object own) (.invalid column "conditions" (.notArray v.kind))
  | noConditions {own : Record} (nests : Nests own []) :
      Shows column (.object own) (.object own) (.missing column "conditions")
  | noTest {own node : Record} {kind : Kind}
      (declared : own.get? "filterType" = some (.string kind.name)) (named : kind ≠ .set)
      (absent : node.get? "type" = none) :
      Shows column (.object own) (.object node) (.missing column "type")
  | unknownTest (own : Value) {node : Record} {v : Value} (given : node.get? "type" = some v)
      (unknown : ∀ test : Test, v ≠ .string test.name) :
      Shows column own (.object node) (.unknownOperator column (spelled v))
  | unsupported {own node : Record} {kind : Kind} {test : Test}
      (declared : own.get? "filterType" = some (.string kind.name))
      (given : node.get? "type" = some (.string test.name))
      (foreign : kind.supports test = false) :
      Shows column (.object own) (.object node) (.unsupported column kind test)
  | unread {own node : Record} {kind : Kind} {test : Test} {key : String} {e : Error}
      (declared : own.get? "filterType" = some (.string kind.name))
      (given : test.Given kind node) (needed : key ∈ test.keys kind)
      (unread : kind.Unread column key (node.get? key) e) :
      Shows column (.object own) (.object node) e
  | reversed {own node : Record} {kind : Kind} {low high : Scalar}
      (declared : own.get? "filterType" = some (.string kind.name))
      (given : Test.inRange.Given kind node) (start : kind.Holds node kind.valueKey low)
      (stop : kind.Holds node kind.endKey high) (downwards : low.compare? high = some .gt) :
      Shows column (.object own) (.object node) (.invalid column kind.endKey .reversedRange)

inductive ShowsWhole : Value → Error → Prop
  | rawText (s : String) : ShowsWhole (.string s) (.rawText "filters")
  | notObject {v : Value} (other : v.kind ∉ [.object, .string]) :
      ShowsWhole v (.invalid "filters" "filters" (.notObject v.kind))

variable {column key : String} {e : Error} {kind : Kind} {test : Test} {own node : Record}
  {v outer : Value} {found : Option Value}

theorem Kind.Unread.names (unread : kind.Unread column key found e) :
    e.column = column ∧ e.isOfLayout = false := by
  cases unread <;> exact ⟨rfl, rfl⟩

theorem Shows.names (shows : Shows column outer v e) :
    e.column = column ∧ e.isOfLayout = false := by
  cases shows with
  | unread _ _ _ unread => exact unread.names
  | _ => exact ⟨rfl, rfl⟩

theorem not_showsWhole_object {columns : Record} : ¬ ShowsWhole (.object columns) e := by
  rintro ⟨⟩
  next other => exact other (by simp [Value.kind])

theorem shows_of_nodeOf (refused : nodeOf column v = .error e) : Shows column outer v e := by
  cases v with
  | object => cases refused
  | string s =>
    cases refused
    exact .rawText outer s
  | _ =>
    cases refused
    exact .notObject outer (by simp [Value.kind])

theorem shows_of_kindOf (given : node.get? "filterType" = some v)
    (refused : kindOf column (some v) = .error e) : Shows column outer (.object node) e := by
  cases v with
  | string s =>
    simp only [kindOf] at refused
    split at refused <;> cases refused
    next unread =>
      refine .unknownKind outer given fun k same => ?_
      rw [← same, Kind.ofName?_name] at unread
      cases unread
  | _ =>
    cases refused
    exact .untypedKind outer given (by simp [Value.kind])

theorem unread_of_scalarOf (single : kind ≠ .set)
    (refused : scalarOf column kind key found = .error e) : kind.Unread column key found e := by
  unfold scalarOf at refused
  split at refused
  · cases refused
    exact .absent
  · cases refused
    exact .null
  · next v present =>
    -- the values that are read, or not, by their text come before all others
    split at refused
    · cases refused
    · cases refused
    · split at refused <;> cases refused
      next unread => exact .refused nofun (.notNumber unread)
    · split at refused <;> cases refused
      next unread => exact .refused nofun (.notDate unread)
    · cases refused
    · cases refused
      refine .refused present (.notOfKind single ?_)
      cases kind <;> cases v <;> simp_all [Kind.forms, Value.kind]

theorem unread_of_listOf (refused : listOf column found = .error e) :
    Kind.set.Unread column "values" found e := by
  unfold listOf at refused
  split at refused
  · cases refused
    exact .absent
  · cases refused
    exact .null
  · next items =>
    obtain ⟨v, member, bad⟩ := exists_mem_of_traverse_error refused
    cases v <;> cases bad <;> exact .refused nofun (.notScalar member rfl)
  · next v present other =>
    cases refused
    refine .refused present (.notArray ?_)
    cases v <;> simp_all [Value.kind]

theorem Kind.ne_set_of_supports (supported : kind.supports test = true) (other : test ≠ .isIn) :
    kind ≠ .set := by
  rintro rfl
  cases test <;> contradiction

section Declared
variable (declared : own.get? "filterType" = some (.string kind.name))
include declared

theorem shows_of_testOf (refused : testOf column kind (node.get? "type") = .error e) :
    Shows column (.object own) (.object node) e := by
  cases given : node.get? "type" with
  | none =>
    simp only [given, testOf] at refused
    split at refused <;> cases refused
    next named => exact .noTest declared named given
  | some v =>
    rw [given] at refused
    cases v with
    | string s =>
      simp only [testOf] at refused
      split at refused <;> cases refused
      next unread =>
        refine .unknownTest _ given fun test same => ?_
        cases same
        rw [Test.ofName?_name] at unread
        cases unread
    | _ =>
      cases refused
      exact .unknownTest _ given (by simp)

theorem shows_of_rangeOf (given : Test.inRange.Given kind node) (single : kind ≠ .set)
    (refused : rangeOf column kind node = .error e) :
    Shows column (.object own) (.object node) e := by
  rcases bind_eq_error_iff.1 refused with start | ⟨low, start, rest⟩
  · exact .unread declared given (by simp [Test.keys]) (unread_of_scalarOf single start)
  · rcases bind_eq_error_iff.1 rest with stop | ⟨high, stop, rest⟩
    · exact .unread declared given (by simp [Test.keys]) (unread_of_scalarOf single stop)
    · split at rest <;> cases rest
      next downwards =>
        exact .reversed declared given ((scalarOf_eq_ok_iff column).1 start)
          ((scalarOf_eq_ok_iff column).1 stop) downwards

theorem shows_of_operandOf (given : test.Given kind node) (supported : kind.supports test = true)
    (refused : operandOf column kind test node = .error e) :
    Shows column (.object own) (.object node) e := by
  cases test with
  | blank | notBlank => cases refused
  | isIn =>
    have isSet : kind = .set := Kind.eq_set_of_supports supported
    subst isSet
    exact .unread declared given (by simp [Test.keys, Kind.valueKey])
      (unread_of_listOf (map_eq_error_iff.1 refused))
  | inRange =>
    have single := Kind.ne_set_of_supports supported nofun
    exact shows_of_rangeOf declared given single refused
  | _ =>
    have single := Kind.ne_set_of_supports supported nofun
    exact .unread declared given (by simp [Test.keys])
      (unread_of_scalarOf single (map_eq_error_iff.1 refused))

theorem shows_of_conditionOf (refused : conditionOf column kind node = .error e) :
    Shows column (.object own) (.object node) e := by
  rcases bind_eq_error_iff.1 refused with unnamed | ⟨test, named, rest⟩
  · exact shows_of_testOf declared unnamed
  · have given : test.Given kind node := (testOf_eq_ok_iff column).1 named
    split at rest
    · next supported =>
      rcases bind_eq_error_iff.1 rest with bad | ⟨operand, -, made⟩
      · exact shows_of_operandOf declared given supported bad
      · cases made
    · next foreign =>
      cases rest
      rcases given with given | ⟨-, rfl, rfl⟩
      · exact .unsupported declared given (by simpa using foreign)
      · exact absurd rfl foreign

theorem shows_of_nestedOf (refused : nestedOf column kind v = .error e) :
    Shows column (.object own) v e := by
  rcases bind_eq_error_iff.1 refused with bad | ⟨node, object, rest⟩
  · exact shows_of_nodeOf bad
  · rw [nodeOf_eq_ok_iff] at object
    subst object
    cases given : node.get? "filterType" with
    | none =>
      simp only [given] at rest
      exact shows_of_conditionOf declared rest
    | some w =>
      simp only [given] at rest
      rcases bind_eq_error_iff.1 rest with bad | ⟨nested, repeated, rest⟩
      · exact shows_of_kindOf given bad
      · rw [kindOf_eq_ok_iff] at repeated
        split at rest
        · exact shows_of_conditionOf declared rest
        · next apart =>
          cases rest
          exact .mixedKinds declared (given.trans repeated) apart

end Declared

theorem shows_of_connectiveOf (joined : isJoined own = true)
    (refused : connectiveOf column (own.get? "operator") = .error e) :
    Shows column (.object own) (.object own) e := by
  cases given : own.get? "operator" with
  | none =>
    rw [given] at refused
    cases refused
    refine .noConnective given ?_
    simpa [isJoined, Assoc.has, given, Option.isSome_iff_ne_none] using joined
  | some v =>
    rw [given] at refused
    cases v with
    | string s =>
      simp only [connectiveOf] at refused
      split at refused <;> cases refused
      next unread =>
        refine .unknownConnective given fun text connective same other => ?_
        cases other
        rw [Connective.ofName?_eq_some_iff.2 same] at unread
        cases unread
    | _ =>
      cases refused
      exact .unknownConnective given (by simp)

theorem shows_of_nestedNodes (refused : nestedNodes column own = .error e) :
    Shows column (.object own) (.object own) e := by
  unfold nestedNodes at refused
  split at refused
  · cases refused
  · next v other given =>
    cases refused
    refine .unlisted given ?_
    cases v <;> simp_all [Value.kind]
  · cases refused

theorem shows_of_joinedOf (declared : own.get? "filterType" = some (.string kind.name))
    (joined : isJoined own = true) (refused : joinedOf column kind own = .error e) :
    ∃ v, IsNodeOf (.object own) v ∧ Shows column (.object own) v e := by
  rcases bind_eq_error_iff.1 refused with bad | ⟨connective, -, rest⟩
  · exact ⟨_, .own _, shows_of_connectiveOf joined bad⟩
  · rcases bind_eq_error_iff.1 rest with bad | ⟨nodes, listed, rest⟩
    · exact ⟨_, .own _, shows_of_nestedNodes bad⟩
    · have nests := (nestedNodes_eq_ok_iff column).1 listed
      split at rest
      · next none =>
        cases rest
        rw [List.isEmpty_iff] at none
        exact ⟨_, .own _, .noConditions (none ▸ nests)⟩
      · rcases bind_eq_error_iff.1 rest with bad | ⟨conditions, -, made⟩
        · obtain ⟨v, member, bad⟩ := exists_mem_of_traverse_error bad
          exact ⟨v, .nested nests member, shows_of_nestedOf declared bad⟩
        · cases made

theorem shows_of_columnOf (refused : columnOf column v = .error e) :
    ∃ w, IsNodeOf v w ∧ Shows column v w e := by
  rcases bind_eq_error_iff.1 refused with bad | ⟨own, object, rest⟩
  · exact ⟨v, .own v, shows_of_nodeOf bad⟩
  · rw [nodeOf_eq_ok_iff] at object
    subst object
    rcases bind_eq_error_iff.1 rest with bad | ⟨kind, read, rest⟩
    · cases given : own.get? "filterType" with
      | none =>
        rw [given] at bad
        cases bad
        exact ⟨_, .own _, .noKind given⟩
      | some w => exact ⟨_, .own _, shows_of_kindOf given (given ▸ bad)⟩
    · have declared := kindOf_eq_ok_iff.1 read
      split at rest
      · next joined => exact shows_of_joinedOf declared joined rest
      · exact ⟨_, .own _, shows_of_conditionOf declared (map_eq_error_iff.1 rest)⟩

theorem shows_of_namedColumnOf {p : String × Value} (refused : namedColumnOf p = .error e) :
    e.column = p.1 ∧ e.isOfLayout = false ∧ ∃ node, IsNodeOf p.2 node ∧ Shows p.1 p.2 node e := by
  obtain ⟨node, within, shows⟩ := shows_of_columnOf (map_eq_error_iff.1 refused)
  exact ⟨shows.names.1, shows.names.2, node, within, shows⟩

/-- An error is about the whole, or about a column in which some node has the defect. -/
theorem refusal_is_shown (refused : ofValue v = .error e) :
    e.isOfLayout = false ∧
      (ShowsWhole v e ∨ ∃ (columns : Record) (own node : Value), v = .object columns ∧
        (e.column, own) ∈ columns ∧ IsNodeOf own node ∧ Shows e.column own node e) := by
  cases v with
  | object columns =>
    obtain ⟨p, member, bad⟩ := exists_mem_of_traverse_error (map_eq_error_iff.1 refused)
    obtain ⟨named, reading, node, within, shows⟩ := shows_of_namedColumnOf bad
    refine ⟨reading, .inr ⟨columns, p.2, node, rfl, ?_⟩⟩
    rw [named]
    exact ⟨member, within, shows⟩
  | string s =>
    cases refused
    exact ⟨rfl, .inl (.rawText s)⟩
  | _ =>
    cases refused
    exact ⟨rfl, .inl (.notObject (by simp [Value.kind]))⟩

theorem refusal_is_shown_for_ages :
    let number (n : UInt64) : Value := .number (.ofUInt64 n)
    let young : Value := .object [("type", .string "lessThan"), ("filter", number 18)]
    let range : Value := .object [("filterType", .string "number"), ("type", .string "inRange"),
      ("filter", number 65), ("filterTo", .string "60")]
    let age : Value := .object [("filterType", .string "number"), ("operator", .string "OR"),
      ("conditions", .array [young, range])]
    let v : Value := .object [("name", .object [("filterType", .string "text"),
      ("type", .string "blank")]), ("age", age)]
    let e : Error := .invalid "age" "filterTo" .reversedRange
    ofValue v = .error e ∧ e.isOfLayout = false ∧
      ∃ node, IsNodeOf age node ∧ Shows "age" age node e := by
  intro number young range age v e
  have refused : ofValue v = .error e := rfl
  obtain ⟨reading, whole | ⟨columns, own, node, same, member, within, shows⟩⟩ :=
    refusal_is_shown refused
  · exact absurd whole not_showsWhole_object
  · rw [← Value.object.inj same] at member
    have here : own = age := by simpa [e, Error.column] using member
    exact ⟨refused, reading, node, here ▸ within, here ▸ shows⟩

end Filter

end FieldMapping
