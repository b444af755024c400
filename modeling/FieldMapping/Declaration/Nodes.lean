import FieldMapping.Declaration.Lexeme

/-! Lexemes with their brackets closed. Each bracket has the roles that its contents allow
it, and is an argument list, a tuple or whatever else by what stands around it. -/

namespace FieldMapping

structure Segment where
  name : String
  arguments : List String
deriving DecidableEq

structure Path where
  rooted : Bool
  segments : List Segment
deriving DecidableEq

namespace Path

inductive Role where
  | types
  | bound
  | parameters
  | sequence
  | arguments
  | qualifier
  | lifetimes
deriving DecidableEq

def Role.all : List Role :=
  [types, bound, parameters, sequence, arguments, qualifier, lifetimes]

inductive Node where
  | lexeme (lexeme : Lexeme)
  | bracket (delimiter : Option Delimiter) (roles : List Role) (tokens : List Token)

namespace Node

def tokens : Node → List Token
  | lexeme (.name s) | lexeme (.lifetime s) | lexeme (.literal s) | lexeme (.mark s) => [.word s]
  | lexeme _ => []
  | bracket _ _ tokens => tokens

def isName (n : Node) (s : String) : Bool :=
  match n with
  | lexeme (.name t) => t == s
  | _ => false

def isMark (n : Node) (s : String) : Bool :=
  match n with
  | lexeme (.mark t) => t == s
  | _ => false

def isLifetime : Node → Bool
  | lexeme (.lifetime _) => true
  | _ => false

def isLiteral : Node → Bool
  | lexeme (.literal _) => true
  | _ => false

def isBracket (n : Node) (delimiter : Option Delimiter) (role : Role) : Bool :=
  match n with
  | bracket d roles _ => d == delimiter && roles.contains role
  | _ => false

end Node

structure Item where
  nodes : List Node
  comma : Bool

namespace Item

def isLifetime (a : Item) : Bool := a.nodes.length == 1 && a.nodes.all Node.isLifetime

def commaTokens (a : Item) : List Token := if a.comma then [.word ","] else []

def tokens (a : Item) : List Token := a.nodes.flatMap Node.tokens ++ a.commaTokens

/-- In an argument a sign in front of a number belongs to it. -/
def argumentTokens (a : Item) : List Token :=
  match a.nodes with
  | [.lexeme (.mark "-"), .lexeme (.literal s)] => .word ("-" ++ s) :: a.commaTokens
  | _ => a.tokens

/-- Lifetimes first; a comma is added where the last of them had none. -/
def listTokens (arguments : List Item) : List Token :=
  let lifetimes := arguments.filter isLifetime
  let others := arguments.filter fun a => !a.isLifetime
  let gap := !others.isEmpty && lifetimes.getLast?.any fun a => !a.comma
  lifetimes.flatMap tokens ++ (if gap then [.word ","] else []) ++ others.flatMap argumentTokens

end Item

/-- Words that name a place and take no arguments. -/
def placeWords : List String := ["super", "self", "crate", "try"]

def reservedWords : List String :=
  ["_", "abstract", "as", "async", "await", "become", "box", "break", "const", "continue", "do",
   "dyn", "else", "enum", "extern", "false", "final", "fn", "for", "if", "impl", "in", "let",
   "loop", "macro", "match", "mod", "move", "mut", "override", "priv", "pub", "ref", "return",
   "static", "struct", "trait", "true", "type", "typeof", "unsafe", "unsized", "use", "virtual",
   "where", "while", "yield"]

inductive Awaited where
  | name
  | arguments
  | nameOrArguments
  | link

def readFrom (done : List Segment) (last : Option Segment) :
    Awaited → List Node → Option (List Segment)
  | .name, .lexeme (.name s) :: ns | .nameOrArguments, .lexeme (.name s) :: ns =>
    if reservedWords.contains s then none
    else
      readFrom (done ++ last.toList) (some ⟨s, []⟩)
        (if placeWords.contains s then .link else .arguments) ns
  | .arguments, .lexeme (.mark "::") :: ns => readFrom done last .nameOrArguments ns
  | .link, .lexeme (.mark "::") :: ns => readFrom done last .name ns
  | .arguments, .bracket none roles ts :: ns =>
    if roles.contains .arguments then
      readFrom done (last.map fun e => ⟨e.name, ts.map Token.render⟩) .link ns
    else none
  | .nameOrArguments, .bracket none roles ts :: ns =>
    if roles.contains .arguments then
      readFrom done (last.map fun e => ⟨e.name, "::" :: ts.map Token.render⟩) .link ns
    else none
  | .arguments, [] | .link, [] => some (done ++ last.toList)
  | _, _ => none

def ofNodes? : List Node → Option Path
  | .lexeme (.mark "::") :: nodes => (readFrom [] none .name nodes).map (⟨true, ·⟩)
  | nodes => (readFrom [] none .name nodes).map (⟨false, ·⟩)

def name (p : Path) : String := "::".intercalate (p.segments.map Segment.name)

end Path

end FieldMapping
