import FieldMapping.Assignment
import FieldMapping.Directory.Rules
import FieldMapping.Json.Reading

/-! People on the staff: their types, written forms and declared fields. -/

namespace FieldMapping.Directory

def int64? (v : Value) : Option Int64 :=
  (Json.intIn? (-9223372036854775808) 9223372036854775807 v).map Int64.ofInt

def ofInt64 (i : Int64) : Value :=
  .number (.int i.toInt ⟨i.le_toInt, by have := i.toInt_lt; omega⟩)

def uint32? (v : Value) : Option UInt32 :=
  (Json.intIn? 0 4294967295 v).map fun i => .ofNat i.toNat

def ofUInt32 (n : UInt32) : Value :=
  .number (.int n.toNat ⟨by omega, by have := n.toNat_lt; omega⟩)

structure Person where
  id : Int64
  firstName : String
  lastName : String
  fullName : Option String
  team : Option Int64
  colId : Option String
  badge : Option String
deriving DecidableEq

namespace Person

def write (p : Person) : Option Value :=
  some <| .object
    [("id", ofInt64 p.id), ("firstName", .string p.firstName), ("lastName", .string p.lastName),
     ("fullName", Value.ofOption .string p.fullName),
     ("team", Value.ofOption ofInt64 p.team),
     ("colId", Value.ofOption .string p.colId), ("badge", Value.ofOption .string p.badge)]

def read (v : Value) : Option Person := do
  let p ← Json.parts?
    ["id", "firstName", "lastName", "fullName", "team", "colId", "badge"] v
  let id ← p.required? "id" int64?
  let firstName ← p.required? "firstName" Value.text?
  let lastName ← p.required? "lastName" Value.text?
  let fullName ← p.optional? "fullName" Value.text?
  let team ← p.optional? "team" int64?
  let colId ← p.optional? "colId" Value.text?
  let badge ← p.optional? "badge" Value.text?
  some ⟨id, firstName, lastName, fullName, team, colId, badge⟩

def fields : List (String × Field StockRule) :=
  [("id", { Field.column "id" with required := true }),
   ("firstName", Field.column "first_name"),
   ("lastName", { Field.column "last_name" with source := some "surname" }),
   ("fullName", Field.derived "full_name" "CONCAT(first_name, ' ', last_name)"),
   ("team", { Field.column "team_id" with symbolic := true }),
   ("colId", { Field.column "column_id" with unfilterable := true }),
   ("badge", Field.virtual "badge")]

def model : Model where
  Carrier := Person
  codec := ⟨write, read⟩
  assign :=
    assignOwn
      [("fullName", fun p v => (Json.nullable? Value.text? v).map fun s => { p with fullName := s })]
      (assignNothing "Person")

end Person

structure Employee where
  id : Int64
  firstName : String
  lastName : String
  fullName : Option String
  employeeNumber : String
deriving DecidableEq

namespace Employee

def write (e : Employee) : Option Value :=
  some <| .object
    [("id", ofInt64 e.id), ("firstName", .string e.firstName), ("lastName", .string e.lastName),
     ("fullName", Value.ofOption .string e.fullName),
     ("employeeNumber", .string e.employeeNumber)]

def read (v : Value) : Option Employee := do
  let p ← Json.parts? ["id", "firstName", "lastName", "fullName", "employeeNumber"] v
  let id ← p.required? "id" int64?
  let firstName ← p.required? "firstName" Value.text?
  let lastName ← p.required? "lastName" Value.text?
  let fullName ← p.optional? "fullName" Value.text?
  let employeeNumber ← p.required? "employeeNumber" Value.text?
  some ⟨id, firstName, lastName, fullName, employeeNumber⟩

def codec : Codec Employee := ⟨write, read⟩

def fields : List (String × Field StockRule) :=
  [("lastName", Field.column "family_name"),
   ("fullName", Field.derived "full_name" "CONCAT(last_name, ', ', first_name)"),
   ("employeeNumber", { Field.column "employee_number" with required := true })]

def model : Model where
  Carrier := Employee
  codec := codec
  assign :=
    assignOwn
      [("fullName", fun e v => (Json.nullable? Value.text? v).map fun s => { e with fullName := s })]
      (assignWritten codec "Employee")

end Employee

structure Manager where
  id : Int64
  fullName : Option String
  reports : UInt32
deriving DecidableEq

namespace Manager

def write (m : Manager) : Option Value :=
  some <| .object
    [("id", ofInt64 m.id), ("fullName", Value.ofOption .string m.fullName),
     ("reports", ofUInt32 m.reports)]

def read (v : Value) : Option Manager := do
  let p ← Json.parts? ["id", "fullName", "reports"] v
  let id ← p.required? "id" int64?
  let fullName ← p.optional? "fullName" Value.text?
  let reports ← p.required? "reports" uint32?
  some ⟨id, fullName, reports⟩

def codec : Codec Manager := ⟨write, read⟩

def fields : List (String × Field StockRule) := [("reports", Field.column "reports")]

def model : Model where
  Carrier := Manager
  codec := codec
  assign := assignWritten codec "Manager"

end Manager

end FieldMapping.Directory
