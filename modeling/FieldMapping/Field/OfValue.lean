import FieldMapping.Field.Draft
import FieldMapping.Json.Reading

/-! A field read from the data format. The value must first of all name a
destination; then all its members must have their types; then the rules of a
draft apply. A derived field gets an extended target, any other a plain column. -/

namespace FieldMapping

inductive ReadError where
  | noDestination
  | illTyped
  | draft (error : DraftError)
deriving DecidableEq

def ReadError.message? : ReadError → Option String
  | noDestination => some "FieldMapperEntryError - Invalid: value has no destinationName"
  | illTyped => none
  | draft error => some error.message

namespace Field
variable {ρ : Type}

def isDescription (v : Value) : Bool :=
  match v.member? "destinationName" with
  | some (.string s) => s != ""
  | _ => false

inductive OriginName where
  | regular | derived | virtual
deriving DecidableEq

def OriginName.ofName? : String → Option OriginName
  | "regular" => some .regular
  | "derived" => some .derived
  | "virtual" => some .virtual
  | _ => none

structure Description where
  destination : String
  source : Option String
  required : Bool
  symbolic : Bool
  unfilterable : Bool
  origin : OriginName
  expression : Option String

def Description.ofValue? (v : Value) : Option Description := do
  let p ← Json.parts?
    ["sourceName", "destinationName", "isRequired", "isSymbolic", "denyFilter", "mode",
     "expression"] v
  let source ← p.withDefault? "sourceName" none (Json.nullable? Value.text?)
  let destination ← p.required? "destinationName" Value.text?
  let required ← p.withDefault? "isRequired" false Json.bool?
  let symbolic ← p.withDefault? "isSymbolic" false Json.bool?
  let unfilterable ← p.withDefault? "denyFilter" false Json.bool?
  let origin ← p.withDefault? "mode" .regular (Json.variant? OriginName.ofName?)
  let expression ← p.withDefault? "expression" none (Json.nullable? Value.text?)
  some ⟨destination, source, required, symbolic, unfilterable, origin, expression⟩

/-- A derived field without an expression has the empty one, which is refused. -/
def Description.draft (d : Description) : Draft ρ :=
  let (target, origin) : Target ρ × Origin := match d.origin with
    | .regular => (.column d.destination, .stored)
    | .virtual => (.column d.destination, .virtual)
    | .derived => (.extended d.destination none, .derived (d.expression.getD ""))
  { target := some target, source := d.source, required := some d.required,
    symbolic := some d.symbolic, unfilterable := some d.unfilterable, origin := some origin }

def ofValue (v : Value) : Except ReadError (Field ρ) :=
  if isDescription v then
    match Description.ofValue? v with
    | none => .error .illTyped
    | some d => d.draft.finish.mapError .draft
  else .error .noDestination

end Field

end FieldMapping
