import FieldMapping.Json.Value

/-! Giving an entity the value of a derived field. An entity type is known by how
its values are written and read; a value for a property that a type only inherits
goes through the written form, where the property must already be a key. -/

namespace FieldMapping

structure Codec (α : Type) where
  write : α → Option Value
  read : Value → Option α

inductive AssignError where
  | unknown (entity property : String)
  | unwritable (property : String)
  | unreadable (property : String)
deriving DecidableEq

def AssignError.message? : AssignError → Option String
  | unknown entity property =>
    some s!"ProjectionError - UnknownDerivedField: '{property}' is not a derived field of '{entity}'"
  | unwritable _ => none
  | unreadable _ => none

abbrev Assign (α : Type) (φ : Type := AssignError) := α → String → Value → Except φ α

/-- Any key of a record may be written, known or new. -/
def assignRecord : Assign Record := fun r property value => .ok (r.put property value)

def assignWritten {α : Type} (codec : Codec α) (entity : String) : Assign α :=
  fun a property value =>
    match codec.write a with
    | none => .error (.unwritable property)
    | some (.object members) =>
      if Assoc.has members property then
        match codec.read (.object (Assoc.put members property value)) with
        | some b => .ok b
        | none => .error (.unreadable property)
      else .error (.unknown entity property)
    | some _ => .error (.unknown entity property)

def assignNothing {α : Type} (entity : String) : Assign α :=
  fun _ property _ => .error (.unknown entity property)

/-- Own derived fields first, each with its reader, and everything else elsewhere. -/
def assignOwn {α : Type} (own : List (String × (α → Value → Option α))) (others : Assign α) :
    Assign α :=
  fun a property value =>
    match Assoc.get? own property with
    | some set =>
      match set a value with
      | some b => .ok b
      | none => .error (.unreadable property)
    | none => others a property value

structure Model where
  Carrier : Type
  codec : Codec Carrier
  assign : Assign Carrier

end FieldMapping
