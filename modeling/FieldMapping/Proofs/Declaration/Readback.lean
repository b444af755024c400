import FieldMapping.Proofs.Declaration.Expansion
import FieldMapping.Proofs.Declaration.Problems
import FieldMapping.Proofs.Text.SourceLiterals

/-! The tokens that a declaration expands to from the side of those who read them. A field
is made by a constructor call, and each call behind it settles one thing more. Read in this
way, the rows in the one implementation are the table of the declaration, and the arms in
the other are its assignable properties. -/

namespace FieldMapping

namespace Token
open Declaration

def literal? : Token → Option String
  | word s => Text.unquoted? s
  | group _ _ => none

@[simp] theorem literal?_quoted (s : String) : (quoted s).literal? = some s :=
  Text.unquoted?_sourceLiteral s

section Groups

def groups (d : Delimiter) (ts : List Token) : List (List Token) :=
  ts.filterMap fun
    | group d' inner => if d' = d then some inner else none
    | word _ => none

variable {d : Delimiter} {ts : List Token}

@[simp] theorem groups_nil : groups d [] = [] := rfl

@[simp] theorem groups_word (s : String) : groups d (word s :: ts) = groups d ts := rfl

@[simp] theorem groups_quoted (s : String) : groups d (quoted s :: ts) = groups d ts := rfl

@[simp] theorem groups_group (d' : Delimiter) (inner : List Token) :
    groups d (group d' inner :: ts) = if d' = d then inner :: groups d ts else groups d ts := by
  by_cases same : d' = d <;> simp [groups, same]

@[simp] theorem groups_words (s : String) : groups d (words s ++ ts) = groups d ts := by
  simp [groups, words, List.filterMap_append, List.filterMap_map]

theorem groups_separated (rows : List (List Token)) :
    groups d (separated (rows.map fun row => [group d row])) = rows := by
  induction rows with
  | nil => rfl
  | cons row rows ih =>
    cases rows with
    | nil => simp [separated, groups]
    | cons next rows =>
      have step : separated ((row :: next :: rows).map fun row => [group d row]) =
          group d row :: word "," :: separated ((next :: rows).map fun row => [group d row]) := by
        simp [separated, List.intercalate]
      rw [step, groups_group, if_pos rfl, groups_word, ih]

def body? (impl : List Token) : Option (List Token) := do
  let block ← (groups .braces impl).head?
  (groups .braces block).head?

end Groups

section Fields

/-- The calls of an expression in their order. What stands in front of the parentheses
names the call, without blanks. -/
def callsFrom (name : String) : List Token → List (String × List Token)
  | [] => []
  | word s :: ts => callsFrom (name ++ s) ts
  | group .parens inner :: ts => (name, inner) :: callsFrom "" ts
  | group _ _ :: ts => callsFrom "" ts

def calls (ts : List Token) : List (String × List Token) := callsFrom "" ts

def transform? (ts : List Token) : Option (Transform (List Token)) :=
  match calls ts with
  | [("Some", inner)] =>
    match calls inner with
    | [("crud_gen::Transform::new", name :: word "," :: path)] => name.literal?.map (⟨·, path⟩)
    | _ => none
  | _ => none

def target? (ts : List Token) : Option (Target (List Token)) :=
  match calls ts, ts with
  | [], [name] => name.literal?.map .column
  | [("crud_gen::Destination::extended", name :: word "," :: transform)], _ => do
    return .extended (← name.literal?) (some (← transform? transform))
  | _, _ => none

def made? : String × List Token → Option (Field (List Token))
  | ("crud_gen::FieldMapperEntry::derived", [name, word ",", expression]) => do
    return .derived (← name.literal?) (← expression.literal?)
  | ("crud_gen::FieldMapperEntry::virtual_field", [name]) => name.literal?.map .virtual
  | ("crud_gen::FieldMapperEntry::new", target) => (target? target).map .of
  | _ => none

def settle? (f : Field (List Token)) : String × List Token → Option (Field (List Token))
  | (".with_source_name", [name]) => name.literal?.map fun s => { f with source := some s }
  | (".required", []) => some { f with required := true }
  | (".symbolic", []) => some { f with symbolic := true }
  | (".filter_denied", []) => some { f with unfilterable := true }
  | _ => none

def field? (ts : List Token) : Option (Field (List Token)) :=
  match calls ts with
  | made :: settings => do settings.foldlM settle? (← made? made)
  | [] => none

def row? : List Token → Option (String × Field (List Token))
  | name :: word "," :: field => do return (← name.literal?, ← field? field)
  | _ => none

def rows? (impl : List Token) : Option (List (String × Field (List Token))) := do
  let rows ← (groups .brackets (← body? impl)).head?
  (groups .parens rows).mapM row?

theorem foldlM_settings (f : Field Path) (target : Target (List Token)) (origin : Origin) :
    (calls f.settings).foldlM settle? ⟨none, target, false, false, false, origin⟩ =
      some ⟨f.source, target, f.required, f.symbolic, f.unfilterable, origin⟩ := by
  obtain ⟨source, other, required, symbolic, unfilterable, kept⟩ := f
  let unnamed : Field Path := ⟨none, other, required, symbolic, unfilterable, kept⟩
  have flags : ∀ s, (calls unnamed.settings).foldlM settle?
      ⟨s, target, false, false, false, origin⟩ =
        some ⟨s, target, required, symbolic, unfilterable, origin⟩ := by
    intro s
    cases required <;> cases symbolic <;> cases unfilterable <;> rfl
  cases source with
  | none => exact flags none
  | some s =>
    have first : calls (Field.settings { unnamed with source := some s }) =
        (".with_source_name", [quoted s]) :: calls unnamed.settings := by
      cases required <;> cases symbolic <;> cases unfilterable <;> rfl
    rw [first, List.foldlM_cons]
    simpa [settle?] using flags (some s)

def extendedTokens (name : String) (t : Transform Path) : List Token :=
  words "crud_gen :: Destination :: extended" ++ [parens <| [quoted name] ++ words ", Some"
    ++ [parens <| words "crud_gen :: Transform :: new"
      ++ [parens <| [quoted t.name, word ","] ++ t.rule.tokens], word ","]]

theorem target?_extendedTokens (name : String) (t : Transform Path) :
    target? (extendedTokens name t) = some (.extended name (some (t.map Path.tokens))) := by
  let given : List Token := [word "Some", parens (words "crud_gen :: Transform :: new"
    ++ [parens ([quoted t.name, word ","] ++ t.rule.tokens)]), word ","]
  have transform : transform? given = some (t.map Path.tokens) := by
    change (quoted t.name).literal?.map _ = _
    rw [literal?_quoted]
    rfl
  have comma : words ", Some" = [word ",", word "Some"] := rfl
  rw [extendedTokens, comma]
  change ((quoted name).literal?.bind fun name => (transform? given).bind fun t =>
    some (Target.extended name (some t))) = _
  rw [literal?_quoted, transform]
  rfl

theorem exists_made (f : FieldDeclaration Path) : ∃ call,
    (∀ ts, calls (f.field.made ++ ts) = call :: calls ts) ∧ made? call =
      some ⟨none, f.target.map Path.tokens, false, false, false, f.origin⟩ := by
  unfold FieldDeclaration.field FieldDeclaration.target FieldDeclaration.origin Field.made
  cases derived : f.derived with
  | some expression =>
    refine ⟨("crud_gen::FieldMapperEntry::derived",
      [quoted f.targetName, word ",", quoted expression]), fun _ => rfl, ?_⟩
    simp [made?, Field.derived, Field.of, Target.map]
  | none =>
    cases virtual : f.virtualOnly with
    | true =>
      refine ⟨("crud_gen::FieldMapperEntry::virtual_field", [quoted f.targetName]),
        fun _ => rfl, ?_⟩
      simp [made?, Field.virtual, Field.column, Field.of, Target.map]
    | false =>
      cases transform : f.transform with
      | some path =>
        refine ⟨("crud_gen::FieldMapperEntry::new", extendedTokens f.targetName ⟨path.name, path⟩),
          fun _ => rfl, ?_⟩
        change (target? _).map _ = _
        rw [target?_extendedTokens]
        rfl
      | none =>
        refine ⟨("crud_gen::FieldMapperEntry::new", [quoted f.targetName]), fun _ => rfl, ?_⟩
        change ((quoted f.targetName).literal?.map Target.column).map Field.of = _
        rw [literal?_quoted]
        rfl

theorem field?_tokens (f : FieldDeclaration Path) :
    field? f.field.tokens = some (f.field.map Path.tokens) := by
  obtain ⟨call, reads, made⟩ := exists_made f
  rw [field?, Field.tokens, reads]
  simp only [made]
  exact foldlM_settings f.field _ _

theorem row?_rowTokens (f : FieldDeclaration Path) (property : String) :
    row? ([quoted property, word ","] ++ f.field.tokens) =
      some (property, f.field.map Path.tokens) := by
  change ((quoted property).literal?.bind fun name => (field? f.field.tokens).bind fun field =>
    some (name, field)) = _
  rw [literal?_quoted, field?_tokens]
  rfl

theorem mapM_row? (fields : List (FieldDeclaration Path))
    (property : FieldDeclaration Path → String) :
    (fields.map fun f => [quoted (property f), word ","] ++ f.field.tokens).mapM row? =
      some (fields.map fun f => (property f, f.field.map Path.tokens)) := by
  induction fields with
  | nil => rfl
  | cons f fields ih =>
    rw [List.map_cons, List.mapM_cons, row?_rowTokens, ih]
    rfl

theorem rows?_tableTokens (d : Declaration Path) :
    rows? d.tableTokens = some (d.declared Path.tokens) := by
  have rows : d.table.map rowTokens = (d.mapped.map fun f =>
      [quoted (f.property d.renameRule?), word ","] ++ f.field.tokens).map
        fun row => [group .parens row] := by
    rw [table, List.map_map, List.map_map]
    rfl
  have body : body? d.tableTokens =
      some (words "vec !" ++ [brackets (separated (d.table.map rowTokens))]) := by
    simp [body?, tableTokens, braces, parens]
  have listed : groups .brackets (words "vec !" ++ [brackets (separated (d.table.map rowTokens))]) =
      [separated (d.table.map rowTokens)] := by
    simp [brackets]
  rw [rows?, body, Option.bind_eq_bind, Option.bind_some, listed, rows, List.head?_cons,
    Option.bind_some, groups_separated, mapM_row?, declared, table, List.map_map]
  rfl

end Fields

section Arms

/-- Arms with the property that each matches and the field that it assigns, up to the one
for everything else. -/
def arms? : List Token → Option (List (String × String))
  | [word "_", word "=>", group .braces _] => some []
  | pattern :: word "=>" ::
      group .braces (word "self" :: word "." :: word field :: word "=" :: _) :: ts => do
    return (← pattern.literal?, field) :: (← arms? ts)
  | _ => none

def assigned? (impl : List Token) : Option (List (String × String)) := do
  arms? (← (groups .braces (← body? impl)).head?)

theorem arms?_armTokens (arm : String × String) {ts : List Token} (more : ts ≠ []) :
    arms? (armTokens arm ++ ts) = (arms? ts).map (arm :: ·) := by
  have shape : ∃ body, armTokens arm = [quoted arm.1, word "=>",
      group .braces (word "self" :: word "." :: word arm.2 :: word "=" :: body)] := ⟨_, rfl⟩
  obtain ⟨body, shape⟩ := shape
  rw [shape]
  simp only [List.cons_append, List.nil_append]
  rw [arms?, literal?_quoted]
  · cases arms? ts <;> rfl
  · -- only the arm for everything else may be the last one
    intro _ last
    exact more last

theorem arms?_flatMap (arms : List (String × String)) (fallback : List Token) :
    arms? (arms.flatMap armTokens ++ (words "_ =>" ++ [braces fallback])) = some arms := by
  induction arms with
  | nil => rfl
  | cons arm arms ih =>
    rw [List.flatMap_cons, List.append_assoc, arms?_armTokens arm (by simp), ih]
    rfl

theorem assigned?_assignTokens (d : Declaration Path) :
    assigned? d.assignTokens = some d.assignable := by
  have body : body? d.assignTokens = some (words "match property" ++ [braces <|
      d.assignable.flatMap armTokens ++ words "_ =>" ++ [braces d.fallbackTokens]]) := by
    simp [body?, assignTokens, braces, parens]
  have listed : (groups .braces (words "match property" ++ [braces <|
      d.assignable.flatMap armTokens ++ words "_ =>" ++ [braces d.fallbackTokens]])).head? =
        some (d.assignable.flatMap armTokens ++ (words "_ =>" ++ [braces d.fallbackTokens])) := by
    simp [braces]
  rw [assigned?, body, Option.bind_eq_bind, Option.bind_some, listed]
  exact arms?_flatMap d.assignable d.fallbackTokens

end Arms

end Token

end FieldMapping
