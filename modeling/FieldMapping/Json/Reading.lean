import FieldMapping.Json.Value

/-! Reading typed data from values. A structure may be given by its members or,
positionally, by a list of its parts; members that it does not know are ignored.
Every reader answers `none` for a value that does not fit, without a reason. -/

namespace FieldMapping.Json

def bool? : Value → Option Bool
  | .bool b => some b
  | _ => none

/-- An integer within bounds; a number written with a point is none. -/
def intIn? (low high : Int) : Value → Option Int
  | .number (.int i _) => if low ≤ i ∧ i ≤ high then some i else none
  | _ => none

def uint64? (v : Value) : Option UInt64 :=
  (intIn? 0 18446744073709551615 v).map fun i => .ofNat i.toNat

def listOf? (read : Value → Option α) : Value → Option (List α)
  | .array items => items.mapM read
  | _ => none

def nullable? (read : Value → Option α) : Value → Option (Option α)
  | .null => some none
  | v => (read v).map some

/-- A name, or an object whose only member is that name with the value null. -/
def variant? (named : String → Option α) : Value → Option α
  | .string s => named s
  | .object [(s, .null)] => named s
  | _ => none

structure Parts where
  find : String → Option Value
  byName : Bool

def parts? (names : List String) : Value → Option Parts
  | .object ms => some ⟨Assoc.get? ms, true⟩
  | .array items =>
    if items.length ≤ names.length then some ⟨Assoc.get? (names.zip items), false⟩ else none
  | _ => none

namespace Parts

def required? (p : Parts) (name : String) (read : Value → Option α) : Option α :=
  (p.find name).bind read

def withDefault? (p : Parts) (name : String) (default : α) (read : Value → Option α) :
    Option α :=
  match p.find name with
  | none => some default
  | some v => read v

/-- A nullable part may be missing among members, but not from a list of parts. -/
def optional? (p : Parts) (name : String) (read : Value → Option α) : Option (Option α) :=
  match p.find name with
  | none => if p.byName then some none else none
  | some v => nullable? read v

end Parts

end FieldMapping.Json
