import FieldMapping.Filter.Admission
import FieldMapping.Listing.Scope
import FieldMapping.Storage.Predicate

/-! What a request becomes in terms of storage: keys, filters, sort orders and
selected columns under the names of their columns. A field with an extended
target has no single column, and no query can be made of it. -/

namespace FieldMapping

structure ExtendedTarget where
  entity : String
  property : String
  description : String
deriving DecidableEq

def ExtendedTarget.message (e : ExtendedTarget) : String :=
  s!"ArgumentMappingError: '{e.property}' on '{e.entity}' maps to extended destination '{e.description}'"

inductive QueryError where
  | extended (error : ExtendedTarget)
  | filter (error : Filter.Error)
deriving DecidableEq

def QueryError.message : QueryError → String
  | extended error => s!"RequestError - ArgumentMapping: {error.message}"
  | filter error => s!"RequestError - Filter: {error.message}"

structure StorageFilter where
  find : Option Predicate
  symbolic : List (String × Filter.Column)

structure Order where
  field : String
  direction : Direction
deriving DecidableEq

structure Query where
  offset : Option UInt64
  limit : Option UInt64
  filter : StorageFilter
  orderBy : List Order

def Filter.Condition.on (c : Filter.Condition) (field : String) : Predicate :=
  .test field c.test c.operand

def Filter.Column.on (c : Filter.Column) (field : String) : Predicate :=
  match c with
  | .single c => c.on field
  | .joined .and cs => .all (cs.map fun c => c.on field)
  | .joined .or cs => .any (cs.map fun c => c.on field)

theorem Filter.Column.atoms_on (c : Filter.Column) (field : String) :
    (c.on field).atoms = c.conditions.map fun k => ⟨field, k.test, k.operand⟩ := by
  have each : ∀ cs : List Filter.Condition,
      Predicate.atomsOf (cs.map fun k => k.on field)
        = cs.map fun k => ⟨field, k.test, k.operand⟩ := by
    intro cs
    induction cs with
    | nil => rfl
    | cons k cs ih =>
      simpa [Predicate.atomsOf, Filter.Condition.on, Predicate.atoms] using ih
  cases c with
  | single k => rfl
  | joined op cs => cases op <;> exact each cs

namespace Layout
variable {ρ : Type}

def columnOf (l : Layout ρ) (property : String) (field : Field ρ) :
    Except ExtendedTarget String :=
  match field.target.column? with
  | some name => .ok name
  | none => .error ⟨l.entity, property, field.describe⟩

def storageKey (l : Layout ρ) (key : String) : Except ExtendedTarget String :=
  match l.lookup key with
  | some (property, field) => l.columnOf property field
  | none => .ok key

/-- Keys may meet under one storage name: the first decides the place and the last
the value. -/
def renameKeys (l : Layout ρ) (input : Record) : Except ExtendedTarget Record :=
  (traverse (fun p => (l.storageKey p.1).map fun k => (k, p.2)) input).map Assoc.ofPairs

inductive Part where
  | stored (predicate : Predicate)
  | symbolic (property : String) (column : Filter.Column)

def Part.predicate? : Part → Option Predicate
  | stored p => some p
  | symbolic _ _ => none

def Part.symbolic? : Part → Option (String × Filter.Column)
  | stored _ => none
  | symbolic property column => some (property, column)

def partOf (l : Layout ρ) (c : String × Filter.Column) : Except QueryError Part :=
  match l.lookup c.1 with
  | none => .error (.filter (.unknownColumn l.entity c.1))
  | some (property, field) =>
    match l.columnOf property field with
    | .error e => .error (.extended e)
    | .ok name => .ok (if field.symbolic then .symbolic property c.2 else .stored (c.2.on name))

/-- Every column is admitted before the first is given its storage name. -/
def storageFilter (l : Layout ρ) (f : Filter) : Except QueryError StorageFilter := do
  (l.acceptFilter f).mapError .filter
  let parts ← traverse l.partOf f.columns
  .ok ⟨Predicate.join (parts.filterMap Part.predicate?), parts.filterMap Part.symbolic?⟩

def storageOrder (l : Layout ρ) (s : SortKey) : Except QueryError Order :=
  match l.lookup s.column with
  | none => .error (.filter (.unknownColumn l.entity s.column))
  | some (property, field) =>
    if field.origin.isVirtual then .error (.filter (.impossible s.column .virtualSort))
    else
      match l.columnOf property field with
      | .error e => .error (.extended e)
      | .ok name => .ok ⟨name, s.direction⟩

def storageSorting (l : Layout ρ) (keys : List SortKey) : Except QueryError (List Order) :=
  traverse l.storageOrder keys

def optionalFilter (l : Layout ρ) : Option Filter → Except QueryError StorageFilter
  | none => .ok ⟨none, []⟩
  | some f => l.storageFilter f

def optionalSorting (l : Layout ρ) : Option (List SortKey) → Except QueryError (List Order)
  | none => .ok []
  | some keys => l.storageSorting keys

def unboundedQuery (l : Layout ρ) (a : Arguments) : Except QueryError Query := do
  let filter ← l.optionalFilter a.filter
  let orderBy ← l.optionalSorting a.sorting
  .ok ⟨none, none, filter, orderBy⟩

def query (l : Layout ρ) (listing : Listing) : Except QueryError Query :=
  (l.unboundedQuery listing.arguments).map fun q =>
    { q with offset := some listing.window.start, limit := some listing.window.size }

def selected? (field : Field ρ) : Option String :=
  if field.origin.isDerived || field.origin.isVirtual then none else some field.target.name

def selectedFor? (l : Layout ρ) (name : String) : Option String :=
  match l.lookup name with
  | none => some name
  | some (_, field) => selected? field

/-- Columns of the requested names and then of the required fields, each once. -/
def selectColumns (l : Layout ρ) (requested : List String) : List String :=
  (requested.filterMap l.selectedFor? ++ l.required.filterMap fun p => selected? p.2).eraseDups

end Layout

end FieldMapping
