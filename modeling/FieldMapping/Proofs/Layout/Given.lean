import FieldMapping.Proofs.Layout.Tables

/-! The layout of a list of given fields. A property stands where it was first given, with
the field last given for it, and the two tables answer as a search through the fields does,
whether the fields were given at once or in layers. -/

namespace FieldMapping

namespace Layout
variable {ρ : Type}

def LastNamed (fields : List (String × Field ρ)) (name : String) (i : Nat) : Prop :=
  (∃ p, fields[i]? = some p ∧ p.2.source = some name) ∧
    ∀ j p, i < j → fields[j]? = some p → p.2.source ≠ some name

theorem not_lastNamed_nil (name : String) (i : Nat) :
    ¬ LastNamed ([] : List (String × Field ρ)) name i := by
  simp [LastNamed]

theorem lastNamed_append_singleton {fields : List (String × Field ρ)} {p : String × Field ρ}
    {name : String} {i : Nat} :
    LastNamed (fields ++ [p]) name i ↔
      if p.2.source = some name then i = fields.length else LastNamed fields name i := by
  have last : (fields ++ [p])[fields.length]? = some p := by simp
  have before : ∀ j, j < fields.length → (fields ++ [p])[j]? = fields[j]? :=
    fun j inside => List.getElem?_append_left inside
  have short : ∀ {j q}, (fields ++ [p])[j]? = some q → j < fields.length ∨ j = fields.length := by
    intro j q found
    have inside := (List.getElem?_eq_some_iff.1 found).1
    rw [List.length_append, List.length_singleton] at inside
    omega
  split
  · next named =>
    constructor
    · rintro ⟨⟨q, found, -⟩, none⟩
      rcases short found with earlier | here
      · exact absurd named (none fields.length p earlier last)
      · exact here
    · rintro rfl
      refine ⟨⟨p, last, named⟩, fun j q later found => ?_⟩
      rcases short found with earlier | here <;> omega
  · next other =>
    constructor
    · rintro ⟨⟨q, found, named⟩, none⟩
      rcases short found with earlier | rfl
      · refine ⟨⟨q, before i earlier ▸ found, named⟩, fun j r later there => ?_⟩
        have inside := (List.getElem?_eq_some_iff.1 there).1
        exact none j r later ((before j inside).trans there)
      · cases last.symm.trans found
        exact absurd named other
    · rintro ⟨⟨q, found, named⟩, none⟩
      have inside := (List.getElem?_eq_some_iff.1 found).1
      refine ⟨⟨q, (before i inside).trans found, named⟩, fun j r later there => ?_⟩
      rcases short there with earlier | rfl
      · exact none j r later (before j earlier ▸ there)
      · cases last.symm.trans there
        exact other

theorem get?_sourcesFrom (name : String) (done todo : List (String × Field ρ))
    (known : Assoc Nat) (before : ∀ i, known.get? name = some i ↔ LastNamed done name i) (i : Nat) :
    (sourcesFrom done.length known todo).get? name = some i ↔ LastNamed (done ++ todo) name i := by
  induction todo generalizing done known with
  | nil => simpa [sourcesFrom] using before i
  | cons p todo ih =>
    obtain ⟨property, field⟩ := p
    have split : done ++ (property, field) :: todo = (done ++ [(property, field)]) ++ todo := by
      simp
    have size : (done ++ [(property, field)]).length = done.length + 1 := by simp
    rw [split]
    cases hs : field.source with
    | none =>
      simp only [sourcesFrom, hs, ← size]
      refine ih _ _ fun j => ?_
      rw [lastNamed_append_singleton, if_neg (by simp [hs])]
      exact before j
    | some s =>
      simp only [sourcesFrom, hs, ← size]
      refine ih _ _ fun j => ?_
      rw [lastNamed_append_singleton, Assoc.get?_put]
      by_cases same : s = name
      · simp [hs, same, eq_comm]
      · simpa [hs, same] using before j

theorem Tabled.source_iff {l : Layout ρ} (tabled : l.Tabled) (name : String) (i : Nat) :
    l.sources.get? name = some i ↔ LastNamed l.fields name i := by
  rw [tabled.sources]
  refine get?_sourcesFrom name [] l.fields [] (fun j => ?_) i
  simpa using not_lastNamed_nil name j

theorem Tabled.exists_source_iff {l : Layout ρ} (tabled : l.Tabled) (name : String) :
    (∃ i, l.sources.get? name = some i) ↔ ∃ p ∈ l.fields, p.2.source = some name := by
  constructor
  · rintro ⟨i, found⟩
    obtain ⟨⟨p, here, named⟩, -⟩ := (tabled.source_iff name i).1 found
    exact ⟨p, List.mem_of_getElem? here, named⟩
  · rintro ⟨p, declared, named⟩
    have some : (l.fields.reverse.find? fun p => p.2.source = some name).isSome := by
      rw [List.find?_isSome]
      exact ⟨p, List.mem_reverse.2 declared, by simpa using named⟩
    rw [← tabled.find_source, Option.isSome_bind] at some
    exact Option.isSome_iff_exists.1 (Option.isSome_of_any some)

theorem Placed.position_iff {l : Layout ρ} (placed : l.Placed) (property : String) (i : Nat) :
    l.positions.get? property = some i ↔ l.properties[i]? = some property := by
  refine ⟨placed.key_at, fun here => ?_⟩
  cases known : l.positions.get? property with
  | none => exact absurd (List.mem_of_getElem? here) (placed.position_none_iff.1 known)
  | some j =>
    have there := placed.key_at known
    have inside := (List.getElem?_eq_some_iff.1 there).1
    rw [(List.getElem?_inj inside placed.distinct).1 (there.trans here.symm)]

structure Reflects (l : Layout ρ) (given : List (String × Field ρ)) : Prop where
  distinct : l.properties.Nodup
  order : l.properties = (Assoc.keys given).eraseDups
  field : ∀ property, l.get? property = Assoc.get? given.reverse property
  position : ∀ property i, l.positions.get? property = some i ↔ l.properties[i]? = some property
  source : ∀ name i, l.sources.get? name = some i ↔ LastNamed l.fields name i
  named : ∀ name, (∃ i, l.sources.get? name = some i) ↔ ∃ p ∈ l.fields, p.2.source = some name
  lookup : ∀ name, l.lookup name = (l.fields.find? fun p => p.1 = name).or
    (l.fields.reverse.find? fun p => p.2.source = some name)

theorem Tabled.reflects {l : Layout ρ} (tabled : l.Tabled) {given : List (String × Field ρ)}
    (written : l.fields = Assoc.putAll [] given) : l.Reflects given where
  distinct := tabled.distinct
  order := by
    have all : ∀ keys : List String, (keys.filter fun key => key ∉ ([] : List String)) = keys := by
      simp
    rw [properties, written, Assoc.keys_putAll, Assoc.keys_nil, all, List.nil_append]
  field property := by
    rw [tabled.get?_eq, written, Assoc.get?_putAll, Assoc.get?_nil, Option.or_none]
  position := tabled.position_iff
  source := tabled.source_iff
  named := tabled.exists_source_iff
  lookup := tabled.lookup_eq

theorem fields_layer {parent : Option (Layout ρ)} (above : ∀ l, parent = some l → l.Placed)
    (entity : String) (declared : List (String × Field ρ)) :
    (layer parent entity declared).fields =
      (inherited parent entity).fields.putAll declared :=
  ((Placed.inherited above entity).insertAll declared).2

theorem reflects_ofFields (entity : String) (given : List (String × Field ρ)) :
    (ofFields entity given).Reflects given := by
  have none : ∀ l : Layout ρ, (none : Option (Layout ρ)) = some l → l.Placed := by simp
  exact (made_ofFields entity given).tabled.reflects (fields_layer none entity given)

end Layout

end FieldMapping
