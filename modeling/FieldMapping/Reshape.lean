import FieldMapping.Assignment
import FieldMapping.Catalog

/-! Records of one shape made from records of another. A record that comes with a
layout is walked field by field: each field takes its value out of the record and
puts it under its target, where transforms see what was put there before. What is
left over goes along if the shape has room for it. -/

namespace FieldMapping

structure Shape where
  keys : List String
  distinct : keys.Nodup
deriving DecidableEq

namespace Shape

theorem nodup_eraseDups (keys : List String) : keys.eraseDups.Nodup := by
  generalize hn : keys.length = n
  induction n using Nat.strongRecOn generalizing keys with
  | ind n ih =>
    cases keys with
    | nil => simp
    | cons k keys =>
      rw [List.eraseDups_cons, List.nodup_cons]
      have shorter : (keys.filter fun b => !b == k).length < n := by
        have := List.length_filter_le (fun b => !b == k) keys
        simp only [List.length_cons] at hn
        omega
      exact ⟨by simp [List.mem_eraseDups], ih _ shorter _ rfl⟩

def ofKeys (keys : List String) : Shape := ⟨keys.eraseDups, nodup_eraseDups keys⟩

def of {ρ : Type} (l : Layout ρ) : Shape := ofKeys l.properties

def has (s : Shape) (key : String) : Bool := s.keys.contains key

def fits (s : Shape) (r : Record) : Bool :=
  r.length == s.keys.length && r.keys.all s.has

end Shape

structure UndeclaredTarget where
  entity : String
  property : String
  target : String
deriving DecidableEq

def UndeclaredTarget.message (e : UndeclaredTarget) : String :=
  s!"DestinationMappingError: '{e.property}' on '{e.entity}' maps to '{e.target}' which the output shape does not declare"

namespace Layout
variable {ρ : Type} [Rule ρ]

omit [Rule ρ] in
/-- The value of a field, under its property or else under its source name, and
the record without it. -/
def take (rest : Record) (property : String) (field : Field ρ) : Option (Value × Record) :=
  match rest.get? property with
  | some v => some (v, rest.remove property)
  | none =>
    match field.source with
    | none => none
    | some s => (rest.get? s).map fun v => (v, rest.remove s)

def place (output : Record) (field : Field ρ) (v : Value) : Value :=
  match field.target.transform? with
  | some t => Rule.apply t.rule output v
  | none => v

def walk (entity : String) (shape : Shape) :
    List (String × Field ρ) → Record → Record → Except UndeclaredTarget (Record × Record)
  | [], rest, output => .ok (rest, output)
  | (property, field) :: fields, rest, output =>
    match take rest property field with
    | none => walk entity shape fields rest output
    | some (v, rest) =>
      if shape.has field.target.name then
        walk entity shape fields rest (output.put field.target.name (place output field v))
      else .error ⟨entity, property, field.target.name⟩

omit [Rule ρ] in
/-- Leftovers never replace what a field has put out. -/
def carry (shape : Shape) (output : Record) : Record → Record
  | [] => output
  | (k, v) :: rest =>
    if shape.has k && !output.has k then carry shape (output.put k v) rest
    else carry shape output rest

def reshape (l : Layout ρ) (record : Record) (shape : Shape) : Except UndeclaredTarget Record :=
  (walk l.entity shape l.fields record []).map fun (rest, output) => carry shape output rest

end Layout

inductive Source (ρ : Type) where
  | plain (record : Record)
  | mapped (layout : Layout ρ) (record : Record)

namespace Source
variable {ρ : Type}

def record : Source ρ → Record
  | plain r => r
  | mapped _ r => r

/-- Without a layout a record goes through unchanged or not at all. -/
def onto [Rule ρ] (s : Source ρ) (shape : Shape) : Except UndeclaredTarget (Option Record) :=
  match s with
  | plain r => .ok (if shape.fits r then some r else none)
  | mapped l r => (l.reshape r shape).map some

end Source

inductive MappingError where
  | undeclared (error : UndeclaredTarget)
  | unconverted
  | notAnObject (entity : String)
deriving DecidableEq

def MappingError.message? : MappingError → Option String
  | undeclared error => some s!"MappingError - Destination: {error.message}"
  | unconverted => none
  | notAnObject entity =>
    some s!"MappingError - NotAnObject: '{entity}' did not serialize to an object"

namespace Catalog
variable {ρ : Type} {n : Nat}

/-- An entity with the layout of its type, which is resolved only for an object. -/
def sourceOf (h : Hierarchy ρ n) (c : Catalog ρ n) (e : Fin n) (written : Option Value) :
    Except MappingError (Source ρ) × Catalog ρ n :=
  match written with
  | none => (.error .unconverted, c)
  | some (.object record) =>
    let (l, c) := c.resolve h e
    (.ok (.mapped l record), c)
  | some _ => (.error (.notAnObject (h.name e)), c)

def convert [Rule ρ] {α β : Type} (h : Hierarchy ρ n) (c : Catalog ρ n)
    (e : Fin n) (write : α → Option Value) (a : α) (target : Fin n) (read : Value → Option β) :
    Except MappingError (Option β) × Catalog ρ n :=
  match c.sourceOf h e (write a) with
  | (.error e, c) => (.error e, c)
  | (.ok source, c) =>
    let (l, c) := c.resolve h target
    match source.onto (Shape.of l) with
    | .error e => (.error (.undeclared e), c)
    | .ok none => (.ok none, c)
    | .ok (some record) =>
      match read (.object record) with
      | some b => (.ok (some b), c)
      | none => (.error .unconverted, c)

end Catalog

end FieldMapping
