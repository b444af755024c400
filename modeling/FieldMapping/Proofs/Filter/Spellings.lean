import FieldMapping.Proofs.Filter.Locality

/-! The two spellings of joined conditions. A joined node is read from its kind, its operator
and the nodes nested in it, and these are the same values whether they stand under
`condition1` and `condition2` or in a list. So a node may be rewritten from the one spelling
to the other, with its keys in any order, and a sound filter stays the same filter and one
that is refused is refused for the same reason. -/

namespace FieldMapping

namespace Filter

structure Relisted (node other : Record) (v : Value) (w : Option Value) : Prop where
  first : node.get? "condition1" = some v
  second : node.get? "condition2" = w
  unlisted : node.get? "conditions" = none
  listed : other.get? "conditions" = some (.array (v :: w.toList))
  kept : ∀ key ∈ ["filterType", "operator"], other.get? key = node.get? key

variable {node other : Record} {v : Value} {w : Option Value}

theorem isJoined_of_has {key : String} (joins : key ∈ ["operator", "conditions", "condition1"])
    (here : node.get? key ≠ none) : isJoined node = true := by
  rw [← Bool.not_eq_false, isJoined_eq_false_iff]
  intro alone
  exact here (alone key joins)

theorem columnOf_of_joined (column : String) (joined : isJoined node = true) :
    columnOf column (.object node) =
      (kindOf column (node.get? "filterType") >>= fun kind =>
        connectiveOf column (node.get? "operator") >>= fun connective =>
          nestedNodes column node >>= fun nodes =>
            if nodes.isEmpty then .error (.missing column "conditions")
            else (traverse (nestedOf column kind) nodes).map (.joined connective)) := by
  show (kindOf column _ >>= fun kind => _) = _
  simp only [joined, if_true]
  rfl

namespace Relisted

theorem nestedNodes_eq (relisted : Relisted node other v w) (column : String) :
    nestedNodes column other = nestedNodes column node := by
  -- the keys are looked up in this order, wherever they stand in the node
  have pair : ["condition1", "condition2"].filterMap node.get? = v :: w.toList := by
    cases w <;> simp [relisted.first, relisted.second]
  simp only [nestedNodes, relisted.listed, relisted.unlisted, pair]

theorem columnOf_eq (relisted : Relisted node other v w) (column : String) :
    columnOf column (.object other) = columnOf column (.object node) := by
  have first : node.get? "condition1" ≠ none := by simp [relisted.first]
  have listed : other.get? "conditions" ≠ none := by simp [relisted.listed]
  have joined : isJoined node = true := isJoined_of_has (by simp) first
  have joined' : isJoined other = true := isJoined_of_has (by simp) listed
  rw [columnOf_of_joined column joined, columnOf_of_joined column joined',
    relisted.kept "filterType" (by simp), relisted.kept "operator" (by simp),
    relisted.nestedNodes_eq]

end Relisted

/-- A node in either spelling is read alike, and so is any filter that it stands in. -/
theorem relisted_reads_alike (relisted : Relisted node other v w) (column : String)
    (before after : Record) :
    columnOf column (.object other) = columnOf column (.object node) ∧
      ofValue (.object (before ++ (column, .object other) :: after)) =
        ofValue (.object (before ++ (column, .object node) :: after)) := by
  have alike := relisted.columnOf_eq column
  have here : namedColumnOf (column, .object other) = namedColumnOf (column, .object node) :=
    congrArg (Except.map fun c => (column, c)) alike
  have same (part : Record) :
      List.Forall₂ (fun p q => namedColumnOf q = namedColumnOf p) part part :=
    List.forall₂_same.2 fun _ _ => rfl
  have each := traverse_congr (List.rel_append (same before) (.cons here (same after)))
  exact ⟨alike, congrArg (Except.map fun cs => (⟨cs⟩ : Filter)) each⟩

theorem relisted_reads_alike_for_last_names :
    let blank : Value := .object [("type", .string "blank")]
    let starts : Value := .object [("type", .string "startsWith"), ("filter", .string "D")]
    let node : Record := [("condition2", starts), ("filterType", .string "text"),
      ("condition1", blank), ("operator", .string "OR")]
    let other : Record := [("conditions", .array [blank, starts]), ("operator", .string "OR"),
      ("filterType", .string "text")]
    let raw : Value := .string "name = 'D'"
    let node' : Record := [("condition1", .null), ("condition2", raw),
      ("operator", .string "XOR"), ("filterType", .string "text")]
    let other' : Record := [("filterType", .string "text"), ("conditions", .array [.null, raw]),
      ("operator", .string "XOR")]
    let f : Filter := ⟨[("lastName", .joined .or
      [⟨.text, .blank, .none⟩, ⟨.text, .startsWith, .single (.text "D")⟩])]⟩
    Relisted node other blank (some starts) ∧ Relisted node' other' .null (some raw) ∧
      ofValue (.object [("lastName", .object node)]) = .ok f ∧
      ofValue (.object [("lastName", .object other)]) = .ok f ∧
      columnOf "lastName" (.object other') = .error (.unknownOperator "lastName" "XOR") := by
  intro blank starts node other raw node' other' f
  have relisted : Relisted node other blank (some starts) := ⟨rfl, rfl, rfl, rfl, by decide⟩
  have relisted' : Relisted node' other' .null (some raw) := ⟨rfl, rfl, rfl, rfl, by decide⟩
  have read : ofValue (.object [("lastName", .object node)]) = .ok f := rfl
  have alike := (relisted_reads_alike relisted "lastName" [] []).2
  have alike' := (relisted_reads_alike relisted' "lastName" [] []).1
  exact ⟨relisted, relisted', read, alike.trans read, alike'.trans rfl⟩

end Filter

end FieldMapping
