import FieldMapping.Layout

/-! The tables of a layout say where its fields stand. Layouts are made layer by layer,
and each layer keeps the properties distinct and both tables in step with the fields,
so looking a name up is a search through the fields: for the property of that name,
and else, from the last field back, for that source name. -/

namespace FieldMapping

namespace Layout
variable {ρ : Type}

inductive Made : Layout ρ → Prop
  | base (entity : String) (declared : List (String × Field ρ)) : Made (layer none entity declared)
  | child {l : Layout ρ} (made : Made l) (entity : String) (declared : List (String × Field ρ)) :
    Made (layer (some l) entity declared)

theorem made_ofFields (entity : String) (declared : List (String × Field ρ)) :
    Made (ofFields entity declared) := .base entity declared

structure Placed (l : Layout ρ) : Prop where
  distinct : l.fields.Distinct
  positions : ∀ name, l.positions.get? name = l.fields.keys.idxOf? name

namespace Placed

theorem empty (entity : String) : Placed (Layout.empty (ρ := ρ) entity) where
  distinct := List.nodup_nil
  positions _ := rfl

theorem position_none_iff {l : Layout ρ} (placed : l.Placed) {name : String} :
    l.positions.get? name = none ↔ name ∉ l.fields.keys := by
  rw [placed.positions, List.idxOf?_eq_none_iff]

theorem key_at {l : Layout ρ} (placed : l.Placed) {name : String} {i : Nat}
    (known : l.positions.get? name = some i) : l.fields.keys[i]? = some name := by
  rw [placed.positions, List.idxOf?_eq_some_iff] at known
  obtain ⟨inside, here, -⟩ := known
  rw [List.getElem?_eq_getElem inside, here]

theorem fields_insert {l : Layout ρ} (placed : l.Placed) (property : String) (field : Field ρ) :
    (l.insert property field).fields = l.fields.put property field := by
  cases known : l.positions.get? property with
  | some i =>
    simpa [Layout.insert, known] using
      Assoc.modify_eq_put (placed.key_at known) placed.distinct field
  | none =>
    have new : property ∉ l.fields.keys := placed.position_none_iff.1 known
    simpa [Layout.insert, known] using (Assoc.put_of_not_mem new field).symm

theorem positions_insert {l : Layout ρ} (placed : l.Placed) (property : String)
    (field : Field ρ) : (l.insert property field).positions =
      if property ∈ l.fields.keys then l.positions
      else l.positions ++ [(property, l.fields.length)] := by
  cases known : l.positions.get? property with
  | some i =>
    have old : property ∈ l.fields.keys := List.mem_of_getElem? (placed.key_at known)
    simp [Layout.insert, known, old]
  | none => simp [Layout.insert, known, placed.position_none_iff.1 known]

theorem insert {l : Layout ρ} (placed : l.Placed) (property : String) (field : Field ρ) :
    (l.insert property field).Placed where
  distinct := by
    rw [placed.fields_insert property field]
    exact Assoc.distinct_put placed.distinct property field
  positions name := by
    rw [placed.positions_insert, placed.fields_insert, Assoc.keys_put]
    split
    · exact placed.positions name
    · have size : l.fields.keys.length = l.fields.length := List.length_map _
      rw [Assoc.get?_append, placed.positions, ← size]
      by_cases same : property = name <;>
        simp [Assoc.get?, List.idxOf?, List.findIdx?_append, List.findIdx?_cons, same]

theorem insertAll {l : Layout ρ} (placed : l.Placed) (declared : List (String × Field ρ)) :
    (l.insertAll declared).Placed ∧
      (l.insertAll declared).fields = l.fields.putAll declared := by
  induction declared generalizing l with
  | nil => exact ⟨placed, rfl⟩
  | cons p declared ih =>
    have rest := ih (placed.insert p.1 p.2)
    rw [placed.fields_insert] at rest
    exact rest

theorem inherited {parent : Option (Layout ρ)} (above : ∀ l, parent = some l → l.Placed)
    (entity : String) : (Layout.inherited parent entity).Placed := by
  cases parent with
  | none => exact .empty entity
  | some l => exact ⟨(above l rfl).distinct, (above l rfl).positions⟩

end Placed

structure Tabled (l : Layout ρ) : Prop extends l.Placed where
  sources : l.sources = sourcesFrom 0 [] l.fields

theorem tabled_layer {parent : Option (Layout ρ)} (above : ∀ l, parent = some l → l.Placed)
    (entity : String) (declared : List (String × Field ρ)) :
    (layer parent entity declared).Tabled where
  toPlaced :=
    have made := ((Placed.inherited above entity).insertAll declared).1
    ⟨made.distinct, made.positions⟩
  sources := rfl

theorem Made.tabled {l : Layout ρ} (made : l.Made) : l.Tabled := by
  induction made with
  | base entity declared => exact tabled_layer (by simp) entity declared
  | child _ entity declared ih =>
    refine tabled_layer (fun l same => ?_) entity declared
    cases same
    exact ih.toPlaced

theorem find_sourcesFrom (name : String) (done todo : List (String × Field ρ)) (known : Assoc Nat)
    (before : (known.get? name).bind ((done ++ todo)[·]?) =
      done.reverse.find? fun p => p.2.source = some name) :
    ((sourcesFrom done.length known todo).get? name).bind ((done ++ todo)[·]?) =
      (done ++ todo).reverse.find? fun p => p.2.source = some name := by
  induction todo generalizing done known with
  | nil => simpa [sourcesFrom] using before
  | cons p todo ih =>
    have split : done ++ p :: todo = (done ++ [p]) ++ todo := by simp
    have size : (done ++ [p]).length = done.length + 1 := by simp
    rw [split] at before ⊢
    obtain ⟨property, field⟩ := p
    cases hs : field.source with
    | none =>
      simp only [sourcesFrom, hs, ← size]
      refine ih _ _ ?_
      simpa [hs] using before
    | some s =>
      simp only [sourcesFrom, hs, ← size]
      refine ih _ _ ?_
      rw [Assoc.get?_put]
      by_cases same : s = name
      · simp [hs, same]
      · simpa [hs, same] using before

theorem Tabled.find_source {l : Layout ρ} (tabled : l.Tabled) (name : String) :
    (l.sources.get? name).bind (l.fields[·]?) =
      l.fields.reverse.find? fun p => p.2.source = some name := by
  rw [tabled.sources]
  exact find_sourcesFrom name [] l.fields [] rfl

theorem Placed.find_property {l : Layout ρ} (placed : l.Placed) (name : String) :
    (l.positions.get? name).bind (l.fields[·]?) =
      l.fields.find? fun p => p.1 = name := by
  rw [Assoc.find?_key]
  cases known : l.positions.get? name with
  | none =>
    have absent := Assoc.get?_eq_none_iff.2 (placed.position_none_iff.1 known)
    simp [absent]
  | some i => exact Assoc.getElem?_of_keys placed.distinct (placed.key_at known)

theorem Placed.get?_eq {l : Layout ρ} (placed : l.Placed) (property : String) :
    l.get? property = l.fields.get? property := by
  have found := congrArg (Option.map Prod.snd) (placed.find_property property)
  rw [Assoc.find?_key, Option.map_bind] at found
  simpa [Layout.get?, Function.comp_def] using found

theorem get?_layer {parent : Option (Layout ρ)} (above : ∀ l, parent = some l → l.Placed)
    (entity : String) (declared : List (String × Field ρ)) (property : String) :
    (layer parent entity declared).get? property =
      (Assoc.get? declared.reverse property).or (parent.bind fun l => l.get? property) := by
  have inserted := (Placed.inherited above entity).insertAll declared
  have fields : (layer parent entity declared).fields =
      (Layout.inherited parent entity).fields.putAll declared := inserted.2
  rw [(tabled_layer above entity declared).get?_eq, fields, Assoc.get?_putAll]
  cases parent with
  | none => rfl
  | some l => rw [Option.bind_some, (above l rfl).get?_eq]; rfl

/-- Both tables together are one search through the fields. -/
theorem Tabled.lookup_eq {l : Layout ρ} (tabled : l.Tabled) (name : String) :
    l.lookup name = (l.fields.find? fun p => p.1 = name).or
      (l.fields.reverse.find? fun p => p.2.source = some name) := by
  rw [← tabled.find_property, ← tabled.find_source, lookup]
  cases known : l.positions.get? name with
  | none => simp
  | some i =>
    have inside : i < l.fields.length := by
      have here := (List.getElem?_eq_some_iff.1 (tabled.key_at known)).1
      simpa [Assoc.keys] using here
    simp [inside]

variable {l : Layout ρ} {name : String} {p : String × Field ρ}

theorem Tabled.mem_of_lookup (tabled : l.Tabled) (found : l.lookup name = some p) :
    p ∈ l.fields := by
  rw [tabled.lookup_eq, Option.or_eq_some_iff] at found
  rcases found with own | ⟨-, other⟩
  · exact List.mem_of_find?_eq_some own
  · exact List.mem_reverse.1 (List.mem_of_find?_eq_some other)

theorem Tabled.named_of_lookup (tabled : l.Tabled) (found : l.lookup name = some p) :
    p.1 = name ∨ p.2.source = some name := by
  rw [tabled.lookup_eq, Option.or_eq_some_iff] at found
  rcases found with own | ⟨-, other⟩
  · exact .inl (by simpa using List.find?_some own)
  · exact .inr (by simpa using List.find?_some other)

theorem Tabled.lookup_property (tabled : l.Tabled) (declared : p ∈ l.fields) :
    l.lookup p.1 = some p := by
  rw [tabled.lookup_eq, Assoc.find?_key, Assoc.get?_of_mem tabled.distinct declared]
  rfl

theorem Tabled.exists_lookup_source (tabled : l.Tabled) (declared : p ∈ l.fields)
    (source : p.2.source = some name) : ∃ q, l.lookup name = some q := by
  rw [← Option.isSome_iff_exists, tabled.lookup_eq, Option.isSome_or, Bool.or_eq_true]
  right
  rw [List.find?_isSome]
  exact ⟨p, List.mem_reverse.2 declared, by simpa using source⟩

end Layout

end FieldMapping
