import FieldMapping.Assoc
import FieldMapping.Field.Basic

/-! The layout of an entity: its fields in the order of their first declaration,
with two tables beside them that find a field by its property name and by the
other name under which it may arrive. Positions in both tables count from zero. -/

namespace FieldMapping

structure Layout (ρ : Type) where
  entity : String
  fields : Assoc (Field ρ)
  positions : Assoc Nat
  sources : Assoc Nat
deriving DecidableEq

namespace Layout
variable {ρ : Type}

def empty (entity : String) : Layout ρ := ⟨entity, [], [], []⟩

/-- A field that replaces another takes its position. -/
def insert (l : Layout ρ) (property : String) (field : Field ρ) : Layout ρ :=
  match l.positions.get? property with
  | some i => { l with fields := l.fields.modify i fun p => (p.1, field) }
  | none =>
    { l with
      fields := l.fields ++ [(property, field)]
      positions := l.positions ++ [(property, l.fields.length)] }

def insertAll (l : Layout ρ) (declared : List (String × Field ρ)) : Layout ρ :=
  declared.foldl (fun l p => l.insert p.1 p.2) l

/-- Source names of a run of fields that starts at position `i`, written on top of
those before them: of two fields with one source name the later one has it. -/
def sourcesFrom (i : Nat) (known : Assoc Nat) : List (String × Field ρ) → Assoc Nat
  | [] => known
  | (_, f) :: rest =>
    match f.source with
    | none => sourcesFrom (i + 1) known rest
    | some s => sourcesFrom (i + 1) (known.put s i) rest

def indexed (l : Layout ρ) : Layout ρ := { l with sources := sourcesFrom 0 [] l.fields }

def ofFields (entity : String) (declared : List (String × Field ρ)) : Layout ρ :=
  ((empty entity).insertAll declared).indexed

def inherited (parent : Option (Layout ρ)) (entity : String) : Layout ρ :=
  match parent with
  | some l => { l with entity := entity }
  | none => empty entity

def layer (parent : Option (Layout ρ)) (entity : String) (declared : List (String × Field ρ)) :
    Layout ρ :=
  ((inherited parent entity).insertAll declared).indexed

def get? (l : Layout ρ) (property : String) : Option (Field ρ) :=
  (l.positions.get? property).bind fun i => l.fields[i]?.map Prod.snd

def has (l : Layout ρ) (property : String) : Bool := l.positions.has property

/-- The field that an incoming name means: the property of that name, or else the
last field with that source name. The property comes with it. -/
def lookup (l : Layout ρ) (name : String) : Option (String × Field ρ) :=
  ((l.positions.get? name).or (l.sources.get? name)).bind fun i => l.fields[i]?

theorem exists_meant_iff {l : Layout ρ} {name property : String} {field : Field ρ}
    (found : l.lookup name = some (property, field)) (good : Field ρ → Prop) :
    (∃ property field, l.lookup name = some (property, field) ∧ good field) ↔ good field := by
  constructor
  · rintro ⟨_, _, other, holds⟩
    cases found.symm.trans other
    exact holds
  · intro holds
    exact ⟨property, field, found, holds⟩

def properties (l : Layout ρ) : List String := l.fields.keys

def derived (l : Layout ρ) : List (String × String) :=
  l.fields.filterMap fun p => p.2.origin.expression?.map fun e => (p.1, e)

def required (l : Layout ρ) : List (String × Field ρ) := l.fields.filter fun p => p.2.required

def size (l : Layout ρ) : Nat := l.fields.length

@[simp] theorem entity_insert (l : Layout ρ) (property : String) (field : Field ρ) :
    (l.insert property field).entity = l.entity := by
  unfold insert
  split <;> rfl

theorem entity_insertAll (l : Layout ρ) (declared : List (String × Field ρ)) :
    (l.insertAll declared).entity = l.entity := by
  induction declared generalizing l with
  | nil => rfl
  | cons p declared ih => exact (ih (l.insert p.1 p.2)).trans (entity_insert l p.1 p.2)

@[simp] theorem entity_ofFields (entity : String) (declared : List (String × Field ρ)) :
    (ofFields entity declared).entity = entity :=
  entity_insertAll _ declared

theorem entity_layer (parent : Option (Layout ρ)) (entity : String)
    (declared : List (String × Field ρ)) : (layer parent entity declared).entity = entity := by
  have start : (inherited parent entity).entity = entity := by cases parent <;> rfl
  exact (entity_insertAll _ declared).trans start

end Layout

end FieldMapping
