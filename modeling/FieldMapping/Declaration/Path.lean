import FieldMapping.Declaration.Types

/-! Paths of names, where arguments in angle brackets may follow a name. Arguments
are carried along as they are written, except that lifetimes come before all others. -/

namespace FieldMapping.Path

/-- A bracket that is still open. In a `loose` one stand no types, so there angles are no
brackets and commas part nothing. -/
structure Frame where
  delimiter : Option Delimiter
  loose : Bool
  before : List Item
  nodes : List Node

namespace Frame

def start (delimiter : Option Delimiter) (loose : Bool) : Frame := ⟨delimiter, loose, [], []⟩

def add (f : Frame) (node : Node) : Frame := { f with nodes := f.nodes ++ [node] }

def loosen (f : Frame) : Frame := { f with loose := true }

/-- Blocks, macros and all in them are loose. -/
def opened (f : Frame) (d : Delimiter) : Frame :=
  start (some d) (f.loose || d = .braces || f.nodes.getLast?.any (Node.isMark · "!"))

def items (f : Frame) : List Item :=
  f.before ++ (if f.nodes.isEmpty then [] else [⟨f.nodes, false⟩])

def part (f : Frame) : Option Frame :=
  if f.nodes.isEmpty then none
  else some { f with before := f.before ++ [⟨f.nodes, true⟩], nodes := [] }

def close (f : Frame) : Node :=
  .bracket f.delimiter (Role.ofItems f.items)
    (match f.delimiter with
      | some d => [.group d (f.items.flatMap Item.tokens)]
      | none => .word "<" :: Item.listTokens f.items ++ [.word ">"])

end Frame

/-- Lexemes with each bracket closed. `outer` holds the brackets around `frame`,
the innermost first, and ends in the text itself. -/
def nodesFrom (outer : List Frame) (frame : Frame) : List Lexeme → Option (List Node)
  | [] => if outer.isEmpty && frame.before.isEmpty then some frame.nodes else none
  | l :: ls =>
    match l, outer with
    | .opening d, _ => nodesFrom (frame :: outer) (frame.opened d) ls
    | .closing d, around :: outer =>
      if frame.delimiter = some d then nodesFrom outer (around.add frame.close) ls else none
    | .closing _, [] => none
    | .mark s, outer =>
      if frame.loose then nodesFrom outer (frame.add (.lexeme l)) ls
      else if s = "<" then nodesFrom (frame :: outer) (.start none false) ls
      else if s = ">" then
        match outer with
        | around :: outer =>
          if frame.delimiter = none then nodesFrom outer (around.add frame.close) ls else none
        | [] => none
      else if s = "," then frame.part.bind fun frame => nodesFrom outer frame ls
      -- behind the semicolon of an array stands its length
      else if s = ";" && frame.delimiter = some .brackets then
        nodesFrom outer (frame.add (.lexeme l)).loosen ls
      else nodesFrom outer (frame.add (.lexeme l)) ls
    | l, _ => nodesFrom outer (frame.add (.lexeme l)) ls

def ofText? (s : String) : Option Path := do
  let lexemes ← Lexeme.ofText? s.toList
  let nodes ← nodesFrom [] (.start none false) lexemes
  ofNodes? nodes

end FieldMapping.Path
