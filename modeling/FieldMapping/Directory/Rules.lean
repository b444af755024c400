import FieldMapping.Field.Basic
import FieldMapping.Text.CaseMap

/-! The rules that transforms of the directory compute by. -/

namespace FieldMapping.Directory

inductive StockRule where
  | upper | label | keys | wrap | null | displayName
deriving DecidableEq

namespace StockRule

def all : List StockRule := [upper, label, keys, wrap, null, displayName]

def name : StockRule → String
  | upper => "upper"
  | label => "label"
  | keys => "keys"
  | wrap => "wrap"
  | null => "null"
  | displayName => "display_name"

def ofName? (s : String) : Option StockRule := all.find? fun r => r.name == s

def textOr (fallback : String) (v : Option Value) : String :=
  (v.bind Value.text?).getD fallback

def withTitle (output : Record) (name : String) : String :=
  let title := textOr "" (output.get? "title")
  if title = "" then name else title ++ " " ++ name

def run (rule : StockRule) (output : Record) (v : Value) : Value :=
  match rule with
  | upper =>
    match v with
    | .string s => .string (Text.upperAscii s)
    | v => v
  | label => .string (textOr "?" (output.get? "code") ++ "-" ++ textOr "" (some v))
  | keys => .array (output.keys.map .string)
  | wrap => .array [Value.ofNat output.length, v]
  | null => .null
  | displayName => .string (withTitle output (textOr "" (some v)))

end StockRule

instance : Rule StockRule := ⟨StockRule.run⟩

end FieldMapping.Directory
