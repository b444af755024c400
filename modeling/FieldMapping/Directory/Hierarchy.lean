import FieldMapping.Catalog
import FieldMapping.Directory.Contacts
import FieldMapping.Directory.People
import FieldMapping.Text.Literal

/-! The entity types of the directory: five with a form of their own, and four
open ones, whose entities are values of any form and whose fields and parents are
given from outside. -/

namespace FieldMapping.Directory

abbrev EntityType := Fin 9

def person : EntityType := 0

def employee : EntityType := 1

def names : List String :=
  ["Person", "Employee", "Manager", "Contact", "ContactCard", "E0", "E1", "E2", "E3"]

def nameOf (e : EntityType) : String := names[e]

def find? (name : String) : Option EntityType :=
  (List.finRange 9).find? fun e => nameOf e == name

theorem find?_nameOf (e : EntityType) : find? (nameOf e) = some e := by
  revert e
  decide

def describe (e : EntityType) : String := "EntityType(" ++ Text.literal (nameOf e) ++ ")"

structure Slot where
  fields : List (String × Field StockRule)
  parent : Option EntityType

def fixedFields : List (List (String × Field StockRule)) :=
  [Person.fields, Employee.fields, Manager.fields, Contact.fields, ContactCard.fields]

def fixedParents : List (Option EntityType) := [none, some person, some person, none, none]

/-- An open type that is not given has no fields and no parent. -/
def hierarchy (slots : List Slot) : Hierarchy StockRule 9 where
  name := nameOf
  declared e := (fixedFields ++ slots.map Slot.fields)[e.val]?.getD []
  parent e := (fixedParents ++ slots.map Slot.parent)[e.val]?.getD none

def openCodec : Codec Value where
  write v := if (v.member? "$fail").isSome then none else some v
  read := some

def openModel (e : EntityType) : Model :=
  ⟨Value, openCodec, assignWritten openCodec (nameOf e)⟩

def model (e : EntityType) : Model :=
  [Person.model, Employee.model, Manager.model, Contact.model, ContactCard.model][e.val]?.getD
    (openModel e)

end FieldMapping.Directory
