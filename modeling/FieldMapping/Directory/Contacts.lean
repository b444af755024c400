import FieldMapping.Assignment
import FieldMapping.Directory.Rules
import FieldMapping.Json.Reading

/-! Contacts and the cards made from them. Notes on a contact are written and
read with it but are no exposed field. -/

namespace FieldMapping.Directory

structure Contact where
  salutation : String
  name : String
  emailAddress : String
  internalNotes : String
deriving DecidableEq

namespace Contact

def write (c : Contact) : Option Value :=
  some <| .object
    [("salutation", .string c.salutation), ("name", .string c.name),
     ("emailAddress", .string c.emailAddress), ("internalNotes", .string c.internalNotes)]

def read (v : Value) : Option Contact := do
  let p ← Json.parts? ["salutation", "name", "emailAddress", "internalNotes"] v
  let salutation ← p.required? "salutation" Value.text?
  let name ← p.required? "name" Value.text?
  let emailAddress ← p.required? "emailAddress" Value.text?
  let internalNotes ← p.required? "internalNotes" Value.text?
  some ⟨salutation, name, emailAddress, internalNotes⟩

def fields : List (String × Field StockRule) :=
  [("salutation", Field.column "title"),
   ("name", Field.of (.extended "displayName" (some ⟨"display_name", .displayName⟩))),
   ("emailAddress", Field.column "email")]

def model : Model := ⟨Contact, ⟨write, read⟩, assignNothing "Contact"⟩

end Contact

structure ContactCard where
  title : String
  displayName : String
  email : String
deriving DecidableEq

namespace ContactCard

def write (c : ContactCard) : Option Value :=
  some <| .object
    [("title", .string c.title), ("displayName", .string c.displayName),
     ("email", .string c.email)]

def read (v : Value) : Option ContactCard := do
  let p ← Json.parts? ["title", "displayName", "email"] v
  let title ← p.required? "title" Value.text?
  let displayName ← p.required? "displayName" Value.text?
  let email ← p.required? "email" Value.text?
  some ⟨title, displayName, email⟩

def fields : List (String × Field StockRule) :=
  [("title", Field.column "title"), ("displayName", Field.column "display_name"),
   ("email", Field.column "email")]

def model : Model := ⟨ContactCard, ⟨write, read⟩, assignNothing "ContactCard"⟩

end ContactCard

end FieldMapping.Directory
