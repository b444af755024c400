import FieldMapping.Declaration.Basic
import FieldMapping.Declaration.Tokens
import FieldMapping.Text.Literal

/-! The source text that a sound declaration expands to: the table of its declared
fields, and the assignment of its derived ones. Types with a parent hand every
other property on to the assignment through the written form. -/

namespace FieldMapping
open Token

def quoted (s : String) : Token := word (Text.sourceLiteral s)

namespace Path

def tokens (p : Path) : List Token :=
  let names := p.segments.map fun s => (s.name :: s.arguments).map word
  (if p.rooted then [word "::"] else []) ++ [word "::"].intercalate names

end Path

namespace Field

def made (f : Field Path) : List Token :=
  match f.origin, f.target.transform? with
  | .derived expression, _ =>
    words "crud_gen :: FieldMapperEntry :: derived"
      ++ [parens [quoted f.target.name, word ",", quoted expression]]
  | .virtual, _ =>
    words "crud_gen :: FieldMapperEntry :: virtual_field" ++ [parens [quoted f.target.name]]
  | .stored, some transform =>
    words "crud_gen :: FieldMapperEntry :: new"
      ++ [parens <| words "crud_gen :: Destination :: extended"
        ++ [parens <| [quoted f.target.name] ++ words ", Some"
          ++ [parens <| words "crud_gen :: Transform :: new"
            ++ [parens <| [quoted transform.name, word ","] ++ transform.rule.tokens],
            word ","]]]
  | .stored, none =>
    words "crud_gen :: FieldMapperEntry :: new" ++ [parens [quoted f.target.name]]

def settings (f : Field Path) : List Token :=
  (match f.source with
    | some s => words ". with_source_name" ++ [parens [quoted s]]
    | none => [])
  ++ (if f.required then words ". required" ++ [parens []] else [])
  ++ (if f.symbolic then words ". symbolic" ++ [parens []] else [])
  ++ (if f.unfilterable then words ". filter_denied" ++ [parens []] else [])

def tokens (f : Field Path) : List Token := f.made ++ f.settings

end Field

namespace Declaration

def rowTokens (row : String × Field Path) : List Token :=
  [parens ([quoted row.1, word ","] ++ row.2.tokens)]

def parentTokens (parent : Path) : List Token :=
  words "fn parent" ++ [parens []] ++ words "-> Option < crud_gen :: EntityType >"
    ++ [braces <| [word "Some", parens <| words "crud_gen :: EntityType :: of :: <"
      ++ parent.tokens ++ [word ">", parens []]]]

def tableTokens (d : Declaration Path) : List Token :=
  words "impl crud_gen :: FieldMapped for" ++ [word d.name, braces <|
    words "const ENTITY_NAME : & 'static str =" ++ [quoted d.entityName]
      ++ words "; fn declared_fields" ++ [parens []] ++ words "-> Vec <"
      ++ [parens (words "& 'static str , crud_gen :: FieldMapperEntry"), word ">",
        braces <| words "vec !" ++ [brackets (separated (d.table.map rowTokens))]]
      ++ (d.parent.map parentTokens).getD []]

def armTokens (arm : String × String) : List Token :=
  [quoted arm.1, word "=>", braces <|
    words "self ." ++ [word arm.2] ++ words "= crud_gen :: prelude :: serde_json :: from_value"
      ++ [parens [word "value"]] ++ words ". map_err"
      ++ [parens <| words "| source |" ++ [braces <|
        words "crud_gen :: ProjectionError :: Deserialization" ++ [braces <|
          words "property : property . to_string" ++ [parens []] ++ words ", source ,"]]]
      ++ words "? ; Ok" ++ [parens [parens []]]]

def fallbackTokens (d : Declaration Path) : List Token :=
  match d.parent with
  | some _ =>
    words "crud_gen :: assign_inherited"
      ++ [parens <| words "self ," ++ [quoted d.entityName] ++ words ", property , value"]
  | none =>
    words "let _ = value ; Err"
      ++ [parens <| words "crud_gen :: ProjectionError :: UnknownDerivedField" ++ [braces <|
        words "entity :" ++ [quoted d.entityName] ++ words ", property : property . to_string"
          ++ [parens [], word ","]]]

def assignTokens (d : Declaration Path) : List Token :=
  words "impl crud_gen :: AssignDerived for" ++ [word d.name, braces <|
    words "fn assign_derived"
      ++ [parens (words
        "& mut self , property : & str , value : crud_gen :: prelude :: serde_json :: Value ,")]
      ++ words "-> Result <" ++ [parens []] ++ words ", crud_gen :: ProjectionError >"
      ++ [braces <| words "match property" ++ [braces <|
        d.assignable.flatMap armTokens ++ words "_ =>" ++ [braces d.fallbackTokens]]]]

def expand (d : Declaration Path) : Except (List Problem) String :=
  match d.problems with
  | [] => .ok (renderAll (d.tableTokens ++ d.assignTokens))
  | problems => .error problems

/-- A declaration that cannot be read has no other problems than those of reading it. -/
def expandWritten (d : Declaration String) : Except (List Problem) String :=
  match d.misread with
  | [] => d.read.expand
  | problems => .error problems

end Declaration

end FieldMapping
