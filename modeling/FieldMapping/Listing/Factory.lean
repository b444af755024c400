import FieldMapping.Catalog
import FieldMapping.Listing.Scope

/-! Where the arguments of list requests come from. A paged factory fills in and
cuts windows, an open one knows none. Either may be scoped to the layout of an
entity type, which the catalog resolves when it makes the factory. -/

namespace FieldMapping

structure PagedFactory (ρ : Type) where
  pager : Pager
  scope : Option (Layout ρ)

namespace PagedFactory
variable {ρ : Type}

def build (x : PagedFactory ρ) (r : Request) : Except Filter.Error Listing :=
  r.listing x.pager x.scope

def fresh (x : PagedFactory ρ) : Listing := x.pager.listing

def filterable (x : PagedFactory ρ) : Option (List String) := x.scope.map Layout.filterable

def sortable (x : PagedFactory ρ) : Option (List String) := x.scope.map Layout.sortable

end PagedFactory

structure OpenFactory (ρ : Type) where
  scope : Option (Layout ρ)

namespace OpenFactory
variable {ρ : Type}

def build (x : OpenFactory ρ) (t : Terms) : Except Filter.Error Arguments := t.arguments x.scope

def fresh (_ : OpenFactory ρ) : Arguments := Arguments.none

def filterable (x : OpenFactory ρ) : Option (List String) := x.scope.map Layout.filterable

def sortable (x : OpenFactory ρ) : Option (List String) := x.scope.map Layout.sortable

end OpenFactory

namespace Catalog
variable {ρ : Type} {n : Nat}

def scopeOf (h : Hierarchy ρ n) (c : Catalog ρ n) :
    Option (Fin n) → Option (Layout ρ) × Catalog ρ n
  | none => (none, c)
  | some e =>
    let (l, c) := c.resolve h e
    (some l, c)

def pagedFactory (h : Hierarchy ρ n) (c : Catalog ρ n) (defaults : Option PageDefaults)
    (e : Option (Fin n)) : PagedFactory ρ × Catalog ρ n :=
  let (scope, c) := c.scopeOf h e
  (⟨Pager.of (defaults.getD {}), scope⟩, c)

def openFactory (h : Hierarchy ρ n) (c : Catalog ρ n) (e : Option (Fin n)) :
    OpenFactory ρ × Catalog ρ n :=
  let (scope, c) := c.scopeOf h e
  (⟨scope⟩, c)

end Catalog

end FieldMapping
