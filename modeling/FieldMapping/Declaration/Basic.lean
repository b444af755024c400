import FieldMapping.Declaration.Path
import FieldMapping.Field.Basic
import FieldMapping.Text.NameCase

/-! Declarations of record types with options on each field, what may be wrong
with them, and the table of fields that a sound one declares. A declaration is
written with texts for its paths, which are read first. Names written with the raw
marker `r#` are exposed without it. -/

namespace FieldMapping

inductive Form where
  | named | tuple | unit | enumeration
deriving DecidableEq

def Form.description : Form → String
  | named => "named fields"
  | tuple => "one unnamed field"
  | unit => "no fields"
  | enumeration => "enum"

def Form.expectation : Form → String
  | enumeration => "struct with named fields"
  | _ => "named fields"

structure FieldDeclaration (π : Type) where
  name : String
  destination : Option String := none
  source : Option String := none
  derived : Option String := none
  transform : Option π := none
  required : Bool := false
  symbolic : Bool := false
  unfilterable : Bool := false
  virtualOnly : Bool := false
  skipped : Bool := false

structure Declaration (π : Type) where
  name : String
  entity : Option String
  parent : Option π
  rename : Option String
  generic : Bool
  form : Form
  fields : List (FieldDeclaration π)

def exposedName (s : String) : String :=
  match s.toList with
  | 'r' :: '#' :: rest => String.ofList rest
  | _ => s

inductive Problem where
  | badPath (text place : String)
  | unsupported (form : Form)
  | generic
  | unknownRename (rule : String)
  | derivedAndVirtual
  | transformAndComputed
  | blankExpression
deriving DecidableEq

def Problem.message : Problem → String
  | badPath text place => s!"Unknown value: `{text}` at {place}"
  | unsupported form =>
    s!"Unsupported shape `{form.description}`. Expected {form.expectation}."
  | generic => "FieldMapper cannot be derived for generic types"
  | unknownRename rule => s!"Unknown value: `{rule}`"
  | derivedAndVirtual =>
    "field_mapper: `derived` and `virtual_only` cannot be combined on the same field"
  | transformAndComputed =>
    "field_mapper: `transform` and `derived`/`virtual_only` cannot be combined on the same field"
  | blankExpression => "field_mapper: `derived` needs an expression"

namespace FieldDeclaration

variable {π : Type}

def badTransform? (f : FieldDeclaration String) : Option Problem :=
  match f.transform with
  | some text =>
    if (Path.ofText? text).isSome then none else some (.badPath text (f.name ++ "/transform"))
  | none => none

def read (f : FieldDeclaration String) : FieldDeclaration Path :=
  { f with transform := f.transform.bind Path.ofText? }

/-- At most one problem is reported for a field. -/
def problem? (f : FieldDeclaration π) : Option Problem :=
  if f.derived.isSome && f.virtualOnly then some .derivedAndVirtual
  else if f.transform.isSome && (f.derived.isSome || f.virtualOnly) then some .transformAndComputed
  else if f.derived.any Text.allBlank then some .blankExpression
  else none

def property (rename : Option Text.NameCase) (f : FieldDeclaration π) : String :=
  match rename with
  | some rule => rule.apply (exposedName f.name)
  | none => exposedName f.name

def targetName (f : FieldDeclaration π) : String := f.destination.getD (exposedName f.name)

/-- A transform is the function at its path, and is called by that path. -/
def target (f : FieldDeclaration Path) : Target Path :=
  if f.derived.isSome then .extended f.targetName none
  else if f.virtualOnly then .column f.targetName
  else
    match f.transform with
    | some path => .extended f.targetName (some ⟨path.name, path⟩)
    | none => .column f.targetName

def origin (f : FieldDeclaration π) : Origin :=
  match f.derived with
  | some expression => .derived expression
  | none => if f.virtualOnly then .virtual else .stored

def field (f : FieldDeclaration Path) : Field Path :=
  ⟨f.source, f.target, f.required, f.symbolic, f.unfilterable, f.origin⟩

end FieldDeclaration

namespace Declaration

variable {π : Type}

def badParent? (d : Declaration String) : Option Problem :=
  match d.parent with
  | some text => if (Path.ofText? text).isSome then none else some (.badPath text "extends")
  | none => none

/-- Texts that are no paths are reported of skipped fields too. A type without named
fields has no fields to look at, and that is a further problem. -/
def misread (d : Declaration String) : List Problem :=
  d.badParent?.toList ++
    if d.form = .named then d.fields.filterMap FieldDeclaration.badTransform?
    else [.unsupported d.form]

def read (d : Declaration String) : Declaration Path :=
  { d with parent := d.parent.bind Path.ofText?, fields := d.fields.map FieldDeclaration.read }

def mapped (d : Declaration π) : List (FieldDeclaration π) := d.fields.filter fun f => !f.skipped

def entityName (d : Declaration π) : String := d.entity.getD (exposedName d.name)

def renameRule? (d : Declaration π) : Option Text.NameCase := d.rename.bind Text.NameCase.ofName?

def renameProblem? (d : Declaration π) : Option Problem :=
  match d.rename with
  | some rule => if (Text.NameCase.ofName? rule).isSome then none else some (.unknownRename rule)
  | none => none

def problems (d : Declaration π) : List Problem :=
  (if d.generic then [.generic] else []) ++ d.renameProblem?.toList
    ++ d.mapped.filterMap FieldDeclaration.problem?

def table (d : Declaration Path) : List (String × Field Path) :=
  d.mapped.map fun f => (f.property d.renameRule?, f.field)

def assignable (d : Declaration π) : List (String × String) :=
  (d.mapped.filter fun f => f.derived.isSome).map fun f => (f.property d.renameRule?, f.name)

end Declaration

end FieldMapping
