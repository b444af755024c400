import FieldMapping.Declaration.Basic
import FieldMapping.Directory.Hierarchy

/-! What a declaration means once it is expanded: the fields that its type declares, its
parent and its assignment. Paths are read in a scope, and fields are set by name. The five
types of the directory with a form of their own are what their declarations expand to. -/

namespace FieldMapping

section Functions
variable {σ ρ : Type}

def Transform.map (f : σ → ρ) (t : Transform σ) : Transform ρ := ⟨t.name, f t.rule⟩

def Target.map (f : σ → ρ) : Target σ → Target ρ
  | column name => .column name
  | extended name transform => .extended name (transform.map (Transform.map f))

def Field.map (f : σ → ρ) (field : Field σ) : Field ρ :=
  ⟨field.source, field.target.map f, field.required, field.symbolic, field.unfilterable,
    field.origin⟩

variable (f : σ → ρ) (t : Target σ)

@[simp] theorem Target.name_map : (t.map f).name = t.name := by
  cases t <;> rfl

@[simp] theorem Target.isExtended_map : (t.map f).isExtended = t.isExtended := by
  cases t <;> rfl

@[simp] theorem Target.transform?_map :
    (t.map f).transform? = t.transform?.map (Transform.map f) := by
  cases t <;> rfl

end Functions

structure Scope (ρ : Type) (n : Nat) where
  rule : Path → ρ
  entity : Path → Fin n

namespace Declaration
variable {ρ π α : Type} {n : Nat}

def declared (rule : Path → ρ) (d : Declaration Path) : List (String × Field ρ) :=
  d.table.map fun row => (row.1, row.2.map rule)

/-- Own derived fields take what can be read as their value, and the rest falls to the
written form of a type that has a parent. -/
def assign (d : Declaration π) (codec : Codec α) (set : String → α → Value → Option α) :
    Assign α :=
  assignOwn (d.assignable.map fun arm => (arm.1, set arm.2))
    (if d.parent.isSome then assignWritten codec d.entityName else assignNothing d.entityName)

structure Generates (d : Declaration Path) (s : Scope ρ n) (h : Hierarchy ρ n) (e : Fin n)
    (m : Model) (set : String → m.Carrier → Value → Option m.Carrier) : Prop where
  name : h.name e = d.entityName
  declared : h.declared e = d.declared s.rule
  parent : h.parent e = d.parent.map s.entity
  assign : m.assign = d.assign m.codec set

end Declaration

namespace Directory

def scope : Scope StockRule 9 where
  rule p := (StockRule.ofName? p.name).getD .null
  entity p := ((p.segments.getLast?.bind fun last => find? last.name)).getD person

def personPath : Path :=
  ⟨false, [⟨"crate", []⟩, ⟨"entities", []⟩, ⟨"person", []⟩, ⟨"Person", []⟩]⟩

def camelRecord (name : String) (parent : Option Path) (fields : List (FieldDeclaration Path)) :
    Declaration Path :=
  ⟨name, none, parent, some "camelCase", false, .named, fields⟩

def noField {α : Type} (_ : String) (_ : α) (_ : Value) : Option α := none

namespace Person

def declaration : Declaration Path :=
  camelRecord "Person" none
    [{ name := "id", required := true }, { name := "first_name" },
     { name := "last_name", source := some "surname" },
     { name := "full_name", derived := some "CONCAT(first_name, ' ', last_name)" },
     { name := "team", destination := some "team_id", symbolic := true },
     { name := "col_id", destination := some "column_id", unfilterable := true },
     { name := "badge", virtualOnly := true }]

def set (name : String) (p : Person) (v : Value) : Option Person :=
  if name = "full_name" then
    (Json.nullable? Value.text? v).map fun s => { p with fullName := s }
  else none

theorem generates (slots : List Slot) :
    declaration.Generates scope (hierarchy slots) person model set where
  name := rfl
  declared := by
    change fields = declaration.declared scope.rule
    decide +kernel
  parent := rfl
  assign := by
    have arms : declaration.assignable = [("fullName", "full_name")] := by decide +kernel
    unfold Declaration.assign
    rw [arms]
    rfl

end Person

namespace Employee

def declaration : Declaration Path :=
  camelRecord "Employee" (some personPath)
    [{ name := "id", skipped := true }, { name := "first_name", skipped := true },
     { name := "last_name", destination := some "family_name" },
     { name := "full_name", derived := some "CONCAT(last_name, ', ', first_name)" },
     { name := "employee_number", destination := some "employee_number", required := true }]

def set (name : String) (e : Employee) (v : Value) : Option Employee :=
  if name = "full_name" then
    (Json.nullable? Value.text? v).map fun s => { e with fullName := s }
  else none

theorem generates (slots : List Slot) :
    declaration.Generates scope (hierarchy slots) employee model set where
  name := rfl
  declared := by
    change fields = declaration.declared scope.rule
    decide +kernel
  parent := rfl
  assign := by
    have arms : declaration.assignable = [("fullName", "full_name")] := by decide +kernel
    unfold Declaration.assign
    rw [arms]
    rfl

end Employee

namespace Manager

def declaration : Declaration Path :=
  camelRecord "Manager" (some personPath)
    [{ name := "id", skipped := true }, { name := "full_name", skipped := true },
     { name := "reports", destination := some "reports" }]

theorem generates (slots : List Slot) :
    declaration.Generates scope (hierarchy slots) 2 model noField where
  name := rfl
  declared := by
    change fields = declaration.declared scope.rule
    decide +kernel
  parent := rfl
  assign := by
    have arms : declaration.assignable = [] := by decide +kernel
    unfold Declaration.assign
    rw [arms]
    rfl

end Manager

namespace Contact

def declaration : Declaration Path :=
  camelRecord "Contact" none
    [{ name := "salutation", destination := some "title" },
     { name := "name", destination := some "displayName",
       transform := some ⟨false, [⟨"display_name", []⟩]⟩ },
     { name := "email_address", destination := some "email" },
     { name := "internal_notes", skipped := true }]

theorem generates (slots : List Slot) :
    declaration.Generates scope (hierarchy slots) 3 model noField where
  name := rfl
  declared := by
    change fields = declaration.declared scope.rule
    decide +kernel
  parent := rfl
  assign := by
    have arms : declaration.assignable = [] := by decide +kernel
    unfold Declaration.assign
    rw [arms]
    rfl

end Contact

namespace ContactCard

def declaration : Declaration Path :=
  camelRecord "ContactCard" none
    [{ name := "title" }, { name := "display_name" }, { name := "email" }]

theorem generates (slots : List Slot) :
    declaration.Generates scope (hierarchy slots) 4 model noField where
  name := rfl
  declared := by
    change fields = declaration.declared scope.rule
    decide +kernel
  parent := rfl
  assign := by
    have arms : declaration.assignable = [] := by decide +kernel
    unfold Declaration.assign
    rw [arms]
    rfl

end ContactCard

end Directory

end FieldMapping
