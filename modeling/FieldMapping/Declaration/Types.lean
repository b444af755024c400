import FieldMapping.Declaration.Nodes

/-! Types as they may stand between angle brackets. They are read node by node, from a
place to the next one. What a bracket may be taken for depends on the types inside, so its
roles are found when it closes. -/

namespace FieldMapping.Path

/-- Behind what a further bound may be added. -/
inductive Plus where
  | never
  | bounds
  | always
deriving DecidableEq

/-- What may stand next. -/
inductive Place where
  | type
  | reference
  | referent
  | pointer
  | segment (simple : Bool)
  | named (simple : Bool)
  | link (simple : Bool)
  | argued
  | projected
  | called
  | qualified
  | foreign
  | keyword
  | parameters
  | returning
  | bound (enough : Bool)
  | outlives (enough : Bool)
  | relaxed
  | binder (functions : Bool)
  | bindee (functions : Bool)
  | body
  | closed

structure Reading where
  plus : Plus
  place : Place

namespace Reading

def go (r : Reading) (place : Place) : Reading := { r with place }

/-- In a type that is no bound itself, a bound can only be one of an outer list. -/
def beyond (r : Reading) : Reading := if r.plus = .always then r else { r with plus := .never }

/-- In a list of bounds, and in what one of them returns. -/
def among (r : Reading) : Reading := if r.plus = .never then r else { r with plus := .always }

/-- A name; `simple` paths have no arguments so far and may name a macro. -/
def segment (r : Reading) (simple : Bool) : Node → Option Reading
  | .lexeme (.name s) =>
    if reservedWords.contains s then none
    else if placeWords.contains s then some (r.go .argued)
    else some (r.go (.named simple))
  | _ => none

def path (r : Reading) (simple : Bool) (n : Node) : Option Reading :=
  if n.isMark "::" then some (r.go (.segment simple)) else r.segment simple n

def function (r : Reading) (n : Node) : Option Reading :=
  if n.isName "unsafe" then some (r.beyond.go .qualified)
  else if n.isName "extern" then some (r.beyond.go .foreign)
  else if n.isName "fn" then some (r.beyond.go .parameters)
  else none

def type (r : Reading) (n : Node) : Option Reading :=
  if n.isMark "&" then some (r.beyond.go .reference)
  else if n.isMark "*" then some (r.beyond.go .pointer)
  else if n.isMark "!" || n.isName "_" || n.isBracket (some .brackets) .sequence then
    some (r.beyond.go .closed)
  else if n.isName "dyn" || n.isName "impl" then some (r.among.go (.bound false))
  else if n.isName "for" then some (r.go (.binder true))
  else if n.isBracket (some .parens) .bound then some (r.go .closed)
  else if n.isBracket (some .parens) .types then some (r.beyond.go .closed)
  else if n.isBracket none .qualifier then some (r.beyond.go .projected)
  else (r.function n).or (r.path true n)

def arguments (r : Reading) (n : Node) : Option Reading :=
  if n.isBracket none .arguments then some (r.go .argued)
  else if n.isBracket (some .parens) .types then some (r.go .called)
  else none

def bound (r : Reading) (enough : Bool) (n : Node) : Option Reading :=
  if n.isLifetime then some (r.go (.outlives enough))
  else if n.isMark "?" then some (r.go .relaxed)
  else if n.isName "for" then some (r.go (.binder false))
  else if n.isBracket (some .parens) .bound then some (r.go .closed)
  else r.path false n

def another (r : Reading) (enough : Bool) (n : Node) : Option Reading :=
  if n.isMark "+" && r.plus ≠ .never then some (r.among.go (.bound enough)) else none

def step (r : Reading) (n : Node) : Option Reading :=
  match r.place with
  | .type => r.type n
  | .reference =>
    if n.isLifetime then some (r.go .referent)
    else if n.isName "mut" then some (r.go .type)
    else r.type n
  | .referent => if n.isName "mut" then some (r.go .type) else r.type n
  | .pointer => if n.isName "mut" || n.isName "const" then some (r.go .type) else none
  | .segment simple => r.segment simple n
  | .named simple =>
    if n.isMark "::" then some (r.go (.link simple))
    else if n.isMark "!" && simple then some (r.beyond.go .body)
    else (r.arguments n).or (r.another true n)
  | .link simple => (r.arguments n).or (r.segment simple n)
  | .argued => if n.isMark "::" then some (r.go (.segment false)) else r.another true n
  | .projected => if n.isMark "::" then some (r.go (.segment false)) else none
  | .called =>
    if n.isMark "::" then some (r.go (.segment false))
    else if n.isMark "->" then some (r.among.go .type)
    else r.another true n
  | .qualified => if n.isName "unsafe" then none else r.function n
  | .foreign =>
    if n.isLiteral then some (r.go .keyword)
    else if n.isName "fn" then some (r.go .parameters)
    else none
  | .keyword => if n.isName "fn" then some (r.go .parameters) else none
  | .parameters => if n.isBracket (some .parens) .parameters then some (r.go .returning) else none
  | .returning => if n.isMark "->" then some (r.go .type) else r.another true n
  | .bound enough => r.bound enough n
  | .outlives enough => r.another enough n
  | .relaxed => if n.isName "for" then some (r.go (.binder false)) else r.path false n
  | .binder functions =>
    if n.isBracket none .lifetimes then some (r.go (.bindee functions)) else none
  | .bindee functions => (if functions then r.function n else none).or (r.path false n)
  | .body =>
    match n with
    | .bracket (some _) _ _ => some (r.go .closed)
    | _ => none
  | .closed => r.another true n

/-- A lifetime alone is not enough of a bound. -/
def isDone (r : Reading) : Bool :=
  match r.place with
  | .named _ | .argued | .called | .returning | .closed => true
  | .bound enough | .outlives enough => enough
  | _ => false

def accepts (r : Reading) (nodes : List Node) : Bool := (nodes.foldlM step r).any isDone

end Reading

def isType (nodes : List Node) : Bool := Reading.accepts ⟨.bounds, .type⟩ nodes

/-- Blocks are taken as they come. -/
def isConstant : List Node → Bool
  | [.lexeme (.literal _)] | [.bracket (some .braces) _ _] => true
  | [.lexeme (.mark "-"), .lexeme (.literal s)] => s.toList.head?.any Text.isDigit
  | [n] => n.isName "true" || n.isName "false"
  | _ => false

def afterMember? : List Node → Option (List Node)
  | .lexeme (.name s) :: ns =>
    if reservedWords.contains s then none
    else
      match ns with
      | n :: rest => if n.isBracket none .arguments then some rest else some ns
      | [] => some []
  | _ => none

def isArgument (nodes : List Node) : Bool :=
  nodes.length == 1 && nodes.all Node.isLifetime || isConstant nodes || isType nodes ||
    match afterMember? nodes with
    | some (.lexeme (.mark "=") :: value) => isConstant value || isType value
    | some (.lexeme (.mark ":") :: bounds) => Reading.accepts ⟨.always, .bound true⟩ bounds
    | _ => false

def isParameter : List Node → Bool
  | .lexeme (.name s) :: .lexeme (.mark ":") :: ns =>
    (s == "_" || !reservedWords.contains s) && isType ns
  | ns => isType ns

/-- The length of an array is taken as it comes. -/
def isSequence (nodes : List Node) : Bool :=
  isType (nodes.takeWhile fun n => !n.isMark ";") &&
    (nodes.dropWhile fun n => !n.isMark ";").length != 1

def isQualifier (nodes : List Node) : Bool :=
  isType (nodes.takeWhile fun n => !n.isName "as") &&
    match nodes.dropWhile fun n => !n.isName "as" with
    | [] => true
    | _ :: trait => (ofNodes? trait).isSome

namespace Role

def isOf (items : List Item) : Role → Bool
  | types => items.all fun i => isType i.nodes
  | parameters => items.all fun i => isParameter i.nodes
  | arguments => items.all fun i => isArgument i.nodes
  | lifetimes => items.all Item.isLifetime
  | bound => alone (Reading.accepts ⟨.never, .bound false⟩)
  | sequence => alone isSequence
  | qualifier => alone isQualifier
where
  alone (p : List Node → Bool) : Bool :=
    match items with
    | [⟨nodes, false⟩] => p nodes
    | _ => false

def ofItems (items : List Item) : List Role := all.filter (isOf items)

end Role

end FieldMapping.Path
