import FieldMapping.Assignment
import FieldMapping.Layout
import FieldMapping.Text.Literal

/-! Derived fields of query results. A query selects the expression of each
derived field under an alias of its own; afterwards the values are taken from the
raw rows and put into the entities, row by row and field by field. -/

namespace FieldMapping

structure Enrichment (ρ : Type) where
  layout : Layout ρ
  table : String
  escape : String → String

structure Selection where
  expression : String
  name : String
deriving DecidableEq

inductive EnrichmentError (φ : Type := AssignError) where
  | missingRow (index : Nat)
  | missingColumn (index : Nat) (name : String)
  | assign (error : φ)
deriving DecidableEq

def EnrichmentError.message? : EnrichmentError → Option String
  | missingRow index =>
    some s!"ProjectionError - MissingRawRow: no raw row for entity at index {Text.ofNat index}"
  | missingColumn index name =>
    some s!"ProjectionError - MissingColumn: raw row {Text.ofNat index} has no column '{name}'"
  | assign error => error.message?

def bareAlias (s : String) : String := s

def quotedAlias (s : String) : String := Text.quotedIdentifier s

def underscoredAlias (s : String) : String :=
  String.ofList (s.toList.map fun c => if c = '.' then '_' else c)

namespace Enrichment
variable {ρ α φ : Type}

def aliasOf (p : Enrichment ρ) (property : String) : String :=
  p.escape (p.table ++ "." ++ property)

def selections (p : Enrichment ρ) : List Selection :=
  p.layout.derived.map fun d => ⟨d.2, p.aliasOf d.1⟩

def columns (p : Enrichment ρ) : List (String × String) :=
  p.layout.derived.map fun d => (d.1, p.aliasOf d.1)

def fillFrom (assign : Assign α φ) (index : Nat) (row : Record) :
    List (String × String) → α → Except (EnrichmentError φ) α
  | [], a => .ok a
  | (property, column) :: rest, a =>
    match row.get? column with
    | none => .error (.missingColumn index column)
    | some value =>
      match assign a property value with
      | .error e => .error (.assign e)
      | .ok b => fillFrom assign index row rest b

def fillRows (assign : Assign α φ) (columns : List (String × String)) :
    Nat → List α → List Record → Except (EnrichmentError φ) (List α)
  | _, [], _ => .ok []
  | index, _ :: _, [] => .error (.missingRow index)
  | index, a :: as, row :: rows => do
    let b ← fillFrom assign index row columns a
    let bs ← fillRows assign columns (index + 1) as rows
    .ok (b :: bs)

/-- Without derived fields no row is needed. -/
def fill (p : Enrichment ρ) (assign : Assign α φ) (entities : List α) (rows : List Record) :
    Except (EnrichmentError φ) (List α) :=
  if p.columns.isEmpty then .ok entities else fillRows assign p.columns 0 entities rows

def fillOne (p : Enrichment ρ) (assign : Assign α φ) (entity : Option α) (rows : List Record) :
    Except (EnrichmentError φ) (Option α) :=
  match entity with
  | none => .ok none
  | some a => (p.fill assign [a] rows).map List.head?

end Enrichment

/-- Whatever runs a query: it is told what to select, answers with raw rows and
entities in the same order, and is left in a new state. -/
structure Fetcher (σ ε α : Type) where
  fetch : σ → List Selection → Except ε (List Record × List α) × σ

namespace Fetcher
variable {ρ σ ε α φ : Type}

def fetchAll (x : Fetcher σ ε α) (p : Enrichment ρ) (assign : Assign α φ)
    (lift : EnrichmentError φ → ε) (s : σ) : Except ε (List α) × σ :=
  let (answer, s) := x.fetch s p.selections
  (answer.bind fun (rows, entities) => (p.fill assign entities rows).mapError lift, s)

/-- The first entity alone is filled, from the first row. -/
def fetchFirst (x : Fetcher σ ε α) (p : Enrichment ρ) (assign : Assign α φ)
    (lift : EnrichmentError φ → ε) (s : σ) : Except ε (Option α) × σ :=
  let (answer, s) := x.fetch s p.selections
  (answer.bind fun (rows, entities) => (p.fillOne assign entities.head? rows).mapError lift, s)

end Fetcher

end FieldMapping
