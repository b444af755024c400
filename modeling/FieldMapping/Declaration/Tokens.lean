/-! Source text as trees of tokens. Tokens are written with one blank between
them; of the groups only braces keep blanks inside, and a single one if empty. -/

namespace FieldMapping

inductive Delimiter where
  | parens | brackets | braces
deriving DecidableEq

def Delimiter.enclose : Delimiter → String → String
  | parens, inner => "(" ++ inner ++ ")"
  | brackets, inner => "[" ++ inner ++ "]"
  | braces, inner => if inner = "" then "\x7b \x7d" else "\x7b " ++ inner ++ " \x7d"

inductive Token where
  | word (text : String)
  | group (delimiter : Delimiter) (inner : List Token)

namespace Token

mutual

def render : Token → String
  | word text => text
  | group delimiter inner => delimiter.enclose (renderAll inner)

def renderAll : List Token → String
  | [] => ""
  | [t] => render t
  | t :: ts => render t ++ " " ++ renderAll ts

end

/-- Words that hold no blank, given with blanks between them. -/
def words (s : String) : List Token := (s.toList.splitOn ' ').map fun w => word (String.ofList w)

def parens (inner : List Token) : Token := group .parens inner

def brackets (inner : List Token) : Token := group .brackets inner

def braces (inner : List Token) : Token := group .braces inner

def separated (items : List (List Token)) : List Token := [word ","].intercalate items

end Token

end FieldMapping
