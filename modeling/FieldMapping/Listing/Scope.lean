import FieldMapping.Filter.Admission
import FieldMapping.Filter.OfValue
import FieldMapping.Listing.Request

/-! Arguments of a list request, checked against the layout that they are meant
for. Without a layout filters are only read, and sorting is taken as it is. -/

namespace FieldMapping

structure Arguments where
  filter : Option Filter
  sorting : Option (List SortKey)
deriving DecidableEq

structure Listing where
  window : Window
  arguments : Arguments
deriving DecidableEq

def Arguments.none : Arguments := ⟨.none, .none⟩

namespace Layout
variable {ρ : Type}

def filterable (l : Layout ρ) : List String :=
  (l.fields.filter fun p => !p.2.unfilterable && p.2.isStored).map Prod.fst

def sortable (l : Layout ρ) : List String :=
  (l.fields.filter fun p => p.2.isStored).map Prod.fst

def requireStorageName (l : Layout ρ) (column : String) : Except Filter.Error Unit :=
  match l.lookup column with
  | some (_, field) =>
    if field.target.isExtended then .error (.impossible column .noStorageName) else .ok ()
  | none => .ok ()

def checkFilter (l : Layout ρ) (f : Filter) : Except Filter.Error Unit := do
  l.acceptFilter f
  (traverse (fun c => l.requireStorageName c.1) f.columns).map fun _ => ()

def checkSortKey (l : Layout ρ) (s : SortKey) : Except Filter.Error Unit :=
  match l.lookup s.column with
  | none => .error (.unknownColumn l.entity s.column)
  | some (_, field) =>
    if field.origin.isVirtual then .error (.impossible s.column .virtualSort)
    else if field.target.isExtended then .error (.impossible s.column .noStorageName)
    else .ok ()

def checkSorting (l : Layout ρ) (keys : List SortKey) : Except Filter.Error Unit :=
  (traverse l.checkSortKey keys).map fun _ => ()

end Layout

namespace Terms
variable {ρ : Type}

/-- All of the filter is read before any of it is checked. -/
def readFilter (scope : Option (Layout ρ)) : Option Value → Except Filter.Error (Option Filter)
  | none | some .null => .ok none
  | some v => do
    let f ← Filter.ofValue v
    match scope with
    | none => .ok (some f)
    | some l => (l.checkFilter f).map fun _ => some f

def arguments (scope : Option (Layout ρ)) (t : Terms) : Except Filter.Error Arguments := do
  let filter ← readFilter scope t.filters
  match scope, t.sorting with
  | some l, some keys => (l.checkSorting keys).map fun _ => ⟨filter, t.sorting⟩
  | _, _ => .ok ⟨filter, t.sorting⟩

end Terms

/-- The window is judged before anything else. -/
def Request.listing {ρ : Type} (pager : Pager) (scope : Option (Layout ρ)) (r : Request) :
    Except Filter.Error Listing := do
  let window ← pager.window r.startRow r.endRow
  let arguments ← r.terms.arguments scope
  .ok ⟨window, arguments⟩

def Pager.listing (pager : Pager) : Listing := ⟨pager.defaultWindow, Arguments.none⟩

end FieldMapping
