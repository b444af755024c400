import FieldMapping.Filter.Basic

/-! Everything that can be wrong with the arguments of a list request, and the
message for each. All of it is the client's doing. -/

namespace FieldMapping.Filter

inductive Defect where
  | notObject (found : Value.Kind)
  | notArray (found : Value.Kind)
  | notScalar (found : Value.Kind)
  | notOfKind (kind : Kind) (found : Value.Kind)
  | notNumber (text : String)
  | notDate (text : String)
  | reversedRange
  | startPastEnd (start stop : UInt64)
deriving DecidableEq

def Defect.reason : Defect → String
  | notObject found => s!"expected an object, found {found.name}"
  | notArray found => s!"expected an array, found {found.name}"
  | notScalar found => s!"set members must be scalars, found {found.name}"
  | notOfKind kind found => s!"expected a {kind.name} value, found {found.name}"
  | notNumber text => s!"'{text}' is not a number"
  | notDate text => s!"'{text}' is not a date"
  | reversedRange => "range end precedes range start"
  | startPastEnd start stop =>
    s!"startRow {Text.ofNat start.toNat} is past endRow {Text.ofNat stop.toNat}"

inductive Obstacle where
  | virtualFilter
  | virtualSort
  | noStorageName
deriving DecidableEq

def Obstacle.reason : Obstacle → String
  | virtualFilter => "virtual fields have no storage counterpart"
  | virtualSort => "virtual fields cannot be sorted on"
  | noStorageName => "the field has no single storage name"

inductive Error where
  | missing (column argument : String)
  | invalid (column argument : String) (defect : Defect)
  | unknownOperator (column operator : String)
  | unknownColumn (entity column : String)
  | unsupported (column : String) (kind : Kind) (test : Test)
  | unknownKind (column kind : String)
  | untypedKind (column : String) (found : Value.Kind)
  | mixedKinds (column : String) (expected found : Kind)
  | rawText (column : String)
  | prohibited (column : String)
  | impossible (column : String) (obstacle : Obstacle)
deriving DecidableEq

def Error.message : Error → String
  | missing column argument =>
    s!"FilterError - MissingArguments: '{column}' is missing '{argument}'"
  | invalid column argument defect =>
    s!"FilterError - InvalidArgument: '{argument}' on '{column}': {defect.reason}"
  | unknownOperator column operator =>
    s!"FilterError - InvalidOperator: '{operator}' on '{column}'"
  | unknownColumn entity column =>
    s!"FilterError - InvalidProperty: '{column}' is not a field of '{entity}'"
  | unsupported column kind test =>
    s!"FilterError - ConditionNotSupported: '{test.name}' is not supported by {kind.name} filters on '{column}'"
  | unknownKind column kind =>
    s!"FilterError - FilterNotSupported: filter type '{kind}' on '{column}'"
  | untypedKind column found =>
    s!"FilterError - BadFilterType: '{column}' expected a filter type name, found {found.name}"
  | mixedKinds column expected found =>
    s!"FilterError - BadFilterType: '{column}' expected {expected.name}, found {found.name}"
  | rawText column =>
    s!"FilterError - StringWhere: raw string conditions are not accepted (on '{column}')"
  | prohibited column =>
    s!"FilterError - FilterProhibited: '{column}' cannot be filtered on"
  | impossible column obstacle =>
    s!"FilterError - NotPossible: '{column}': {obstacle.reason}"

end FieldMapping.Filter
