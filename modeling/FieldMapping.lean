import FieldMapping.Declaration.Source
import FieldMapping.Directory.Hierarchy
import FieldMapping.Field.OfValue
import FieldMapping.Filter.OfValue
import FieldMapping.Json.Text
import FieldMapping.Listing.Factory
import FieldMapping.Enrichment
import FieldMapping.Reshape
import FieldMapping.Storage.Query
import FieldMapping.Proofs.Verdict
import FieldMapping.Proofs.Layout.Tables
import FieldMapping.Proofs.Catalog.Cache
import FieldMapping.Proofs.Catalog.Lineage
import FieldMapping.Proofs.Catalog.Registration
import FieldMapping.Proofs.Field.Settings
import FieldMapping.Proofs.Filter.Grammar
import FieldMapping.Proofs.Filter.WellFormed
import FieldMapping.Proofs.Filter.Integers
import FieldMapping.Proofs.Listing.Agreement
import FieldMapping.Proofs.Listing.PageSize
import FieldMapping.Proofs.Listing.Advertised
import FieldMapping.Proofs.Storage.Meaning
import FieldMapping.Proofs.Storage.Derived
import FieldMapping.Proofs.Enrichment.Values
import FieldMapping.Proofs.Reshape.Routing
import FieldMapping.Proofs.Declaration.Assigned
import FieldMapping.Proofs.Declaration.Naming
import FieldMapping.Proofs.Calendar.Layouts
import FieldMapping.Proofs.Filter.Rendering
import FieldMapping.Proofs.Declaration.Distinct
import FieldMapping.Proofs.Filter.Nesting
import FieldMapping.Proofs.Storage.Keys
import FieldMapping.Proofs.Listing.Windows
import FieldMapping.Proofs.Reshape.Outcome
import FieldMapping.Proofs.Reshape.Conservation
import FieldMapping.Proofs.Reshape.KeyOrder
import FieldMapping.Proofs.Text.QuotedNames
import FieldMapping.Proofs.Enrichment.Rows
import FieldMapping.Proofs.Reshape.Calls
import FieldMapping.Proofs.Filter.Locality
import FieldMapping.Proofs.Filter.Refusals
import FieldMapping.Proofs.Filter.Spellings
import FieldMapping.Proofs.Storage.Columns
import FieldMapping.Proofs.Reshape.Plain
import FieldMapping.Proofs.Enrichment.Lookup
import FieldMapping.Proofs.Assignment.Written
import FieldMapping.Proofs.Directory.Patching
import FieldMapping.Proofs.Declaration.Problems
import FieldMapping.Proofs.Text.SourceLiterals
import FieldMapping.Proofs.Declaration.Readback
import FieldMapping.Proofs.Declaration.Agreement
import FieldMapping.Proofs.Catalog.Tables
import FieldMapping.Proofs.Catalog.Ascent
import FieldMapping.Proofs.Field.Descriptions
import FieldMapping.Proofs.Calendar.Agreement
import FieldMapping.Proofs.Field.Finishing
