import FieldMapping.Json.Reading
import FieldMapping.Listing.Window

/-! List requests as they arrive and as they are written back. Filters stay
unread here: any value is kept as it came, except null, which is none. -/

namespace FieldMapping

inductive Direction where
  | ascending | descending
deriving DecidableEq

def Direction.name : Direction → String
  | ascending => "ASC"
  | descending => "DESC"

def Direction.ofName? : String → Option Direction
  | "ASC" | "asc" => some .ascending
  | "DESC" | "desc" => some .descending
  | _ => none

structure SortKey where
  column : String
  direction : Direction
deriving DecidableEq

namespace SortKey

def ofValue? (v : Value) : Option SortKey := do
  let p ← Json.parts? ["colId", "sort"] v
  let column ← p.required? "colId" Value.text?
  let direction ← p.required? "sort" (Json.variant? Direction.ofName?)
  some ⟨column, direction⟩

def toValue (s : SortKey) : Value :=
  .object [("colId", .string s.column), ("sort", .string s.direction.name)]

theorem ofValue?_toValue (s : SortKey) : ofValue? s.toValue = some s := by
  obtain ⟨column, direction⟩ := s
  cases direction <;> rfl

end SortKey

structure Terms where
  filters : Option Value
  sorting : Option (List SortKey)

structure Request where
  startRow : Option UInt64
  endRow : Option UInt64
  terms : Terms

namespace Terms

def ofParts? (p : Json.Parts) : Option Terms := do
  let filters ← p.withDefault? "filters" none (Json.nullable? some)
  let sorting ← p.withDefault? "sorting" none (Json.nullable? (Json.listOf? SortKey.ofValue?))
  some ⟨filters, sorting⟩

def ofValue? (v : Value) : Option Terms :=
  (Json.parts? ["filters", "sorting"] v).bind ofParts?

def members (t : Terms) : Record :=
  [("filters", Value.ofOption id t.filters),
   ("sorting", Value.ofOption (fun keys => .array (keys.map SortKey.toValue)) t.sorting)]

def toValue (t : Terms) : Value := .object t.members

end Terms

namespace Request

def ofValue? (v : Value) : Option Request := do
  let p ← Json.parts? ["startRow", "endRow", "filters", "sorting"] v
  let startRow ← p.withDefault? "startRow" none (Json.nullable? Json.uint64?)
  let endRow ← p.withDefault? "endRow" none (Json.nullable? Json.uint64?)
  let terms ← Terms.ofParts? p
  some ⟨startRow, endRow, terms⟩

def toValue (r : Request) : Value :=
  .object <|
    [("startRow", Value.ofOption Value.ofUInt64 r.startRow),
     ("endRow", Value.ofOption Value.ofUInt64 r.endRow)] ++ r.terms.members

end Request

namespace PageDefaults

def ofValue? (v : Value) : Option PageDefaults := do
  let p ← Json.parts? ["start_row", "end_row", "max_page_size"] v
  let startRow ← p.withDefault? "start_row" (PageDefaults.startRow {}) Json.uint64?
  let endRow ← p.withDefault? "end_row" (PageDefaults.endRow {}) Json.uint64?
  let maxSize ← p.withDefault? "max_page_size" none (Json.nullable? Json.uint64?)
  some ⟨startRow, endRow, maxSize⟩

def toValue (d : PageDefaults) : Value :=
  .object <|
    [("start_row", Value.ofUInt64 d.startRow), ("end_row", Value.ofUInt64 d.endRow)]
      ++ (d.maxSize.map fun m => ("max_page_size", Value.ofUInt64 m)).toList

end PageDefaults

end FieldMapping
