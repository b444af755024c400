import Mathlib.Data.List.Nodup
import FieldMapping.Directory.People
import FieldMapping.Proofs.Enrichment.Rows
import FieldMapping.Proofs.Layout.Tables
import FieldMapping.Proofs.Text.QuotedNames

/-! What enriched entities hold. Every derived field is selected under an alias of its
own, so a row that answers the selections has one value for each derived field, and an
entity gets exactly these values: under the property of each derived field the value of
that field's expression, and everything else as it was. -/

namespace FieldMapping

namespace Enrichment
variable {ρ : Type}

def written (l : Layout ρ) (value : String → Value) (a : Record) : Record :=
  a.putAll (l.derived.map fun d => (d.1, value d.2))

end Enrichment

end FieldMapping
