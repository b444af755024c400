import FieldMapping.Declaration.Tokens
import FieldMapping.Text.Identifier

/-! Lexemes of a path as it is written in source text. Blanks and comments between
them do not count. -/

namespace FieldMapping

inductive Lexeme where
  | name (text : String)
  | lifetime (text : String)
  | literal (text : String)
  | mark (text : String)
  | opening (delimiter : Delimiter)
  | closing (delimiter : Delimiter)
deriving DecidableEq

namespace Lexeme

open Text (startsName continuesName)

/-- The marks of writing direction separate like blanks. -/
def isGap (c : Char) : Bool := Text.isBlank c || c == '\u200e' || c == '\u200f'

def isMark (c : Char) : Bool := "~!@#$%^&*-=+|;:,<.>/?".toList.contains c

def splitName (s : List Char) : String × List Char :=
  (String.ofList (s.takeWhile continuesName), s.dropWhile continuesName)

def splitNumber (s : List Char) : String × List Char :=
  let (whole, r) := splitName s
  match r with
  | '.' :: d :: r =>
    if Text.isDigit d then
      let (part, r) := splitName (d :: r)
      (whole ++ "." ++ part, r)
    else (whole, '.' :: d :: r)
  | r => (whole, r)

/-- What follows a block comment; such comments nest. -/
def afterBlock : Nat → List Char → Option (List Char)
  | _, [] => none
  | depth, '/' :: '*' :: s => afterBlock (depth + 1) s
  | depth, '*' :: '/' :: s => if depth = 0 then some s else afterBlock (depth - 1) s
  | depth, _ :: s => afterBlock depth s

def splitQuoted (quote : Char) : List Char → Option (List Char × List Char)
  | [] => none
  | '\\' :: c :: s => (splitQuoted quote s).map fun (t, r) => ('\\' :: c :: t, r)
  | c :: s =>
    if c = quote then some ([c], s) else (splitQuoted quote s).map fun (t, r) => (c :: t, r)

def afterLine (s : List Char) : List Char := s.dropWhile (· != '\n')

/-- What follows a comment, given what stands behind its first slash. A comment that
documents is part of the source, and no path may have one. -/
def comment? : List Char → Option (List Char)
  | '/' :: '/' :: '/' :: s => some (afterLine s)
  | '/' :: '/' :: _ => none
  | '/' :: '!' :: _ => none
  | '/' :: s => some (afterLine s)
  | '*' :: '*' :: '/' :: s => some s
  | '*' :: '*' :: '*' :: s => afterBlock 0 ('*' :: '*' :: s)
  | '*' :: '*' :: _ => none
  | '*' :: '!' :: _ => none
  | '*' :: s => afterBlock 0 s
  | _ => none

/-- Behind a single quote stands a character in quotes or the name of a lifetime. -/
def afterQuote? (s : List Char) : Option (Lexeme × List Char) :=
  match s with
  | '\\' :: _ =>
    (splitQuoted '\'' s).map fun (t, r) => (literal (String.ofList ('\'' :: t)), r)
  | c :: '\'' :: r => some (literal (String.ofList ['\'', c, '\'']), r)
  | c :: _ =>
    if startsName c then
      let (taken, r) := splitName s
      some (lifetime ("'" ++ taken), r)
    else none
  | [] => none

def neverRaw : List String := ["_", "super", "self", "Self", "crate"]

def next? : List Char → Option (Option Lexeme × List Char)
  | [] => none
  | '(' :: s => some (some (opening .parens), s)
  | ')' :: s => some (some (closing .parens), s)
  | '[' :: s => some (some (opening .brackets), s)
  | ']' :: s => some (some (closing .brackets), s)
  | '\x7b' :: s => some (some (opening .braces), s)
  | '\x7d' :: s => some (some (closing .braces), s)
  | ':' :: ':' :: s => some (some (mark "::"), s)
  | '-' :: '>' :: s => some (some (mark "->"), s)
  | '\'' :: s => (afterQuote? s).map fun (l, r) => (some l, r)
  | '"' :: s =>
    (splitQuoted '"' s).map fun (t, r) => (some (literal (String.ofList ('"' :: t))), r)
  | 'r' :: '#' :: s =>
    let (taken, r) := splitName s
    if s.head?.any startsName && !neverRaw.contains taken then
      some (some (name ("r#" ++ taken)), r)
    else none
  | c :: s =>
    if isGap c then some (none, s)
    else if c = '/' && (s.head? == some '/' || s.head? == some '*') then
      (comment? s).map fun r => (none, r)
    else if startsName c then
      let (taken, r) := splitName (c :: s)
      some (some (name taken), r)
    else if Text.isDigit c then
      let (digits, r) := splitNumber (c :: s)
      some (some (literal digits), r)
    else if isMark c then some (some (mark (String.singleton c)), s)
    else none

theorem length_splitQuoted {quote : Char} {s t r : List Char}
    (h : splitQuoted quote s = some (t, r)) : r.length < s.length := by
  fun_induction splitQuoted quote s generalizing t r with
  | case1 => cases h
  | case2 c s ih => grind [Option.map_eq_some_iff]
  | case3 => grind
  | case4 c s _ _ ih => grind [Option.map_eq_some_iff]

theorem length_afterBlock {depth : Nat} {s r : List Char} (h : afterBlock depth s = some r) :
    r.length < s.length := by
  fun_induction afterBlock depth s <;> grind

theorem length_afterLine (s : List Char) : (afterLine s).length ≤ s.length :=
  (List.dropWhile_sublist _).length_le

theorem length_comment? {s r : List Char} (h : comment? s = some r) : r.length ≤ s.length := by
  unfold comment? at h
  split at h <;> grind [length_afterLine, → length_afterBlock]

theorem length_splitName (s : List Char) : (splitName s).2.length ≤ s.length :=
  (List.dropWhile_sublist _).length_le

theorem length_splitName_cons {c : Char} {s : List Char} (h : continuesName c = true) :
    (splitName (c :: s)).2.length < (c :: s).length := by
  have := (List.dropWhile_sublist (l := s) continuesName).length_le
  simp only [splitName, List.dropWhile_cons, h, if_true, List.length_cons]
  omega

theorem length_splitNumber (s : List Char) :
    (splitNumber s).2.length ≤ (splitName s).2.length := by
  unfold splitNumber
  grind [length_splitName]

theorem length_afterQuote? {s r : List Char} {l : Lexeme} (h : afterQuote? s = some (l, r)) :
    r.length ≤ s.length := by
  unfold afterQuote? at h
  split at h
  · obtain ⟨⟨t, r'⟩, read, same⟩ := Option.map_eq_some_iff.1 h
    cases same
    exact Nat.le_of_lt (length_splitQuoted read)
  · grind
  · grind [length_splitName]
  · cases h

/-- Each step takes something away. -/
theorem length_next? {s r : List Char} {l : Option Lexeme} (h : next? s = some (l, r)) :
    r.length < s.length := by
  unfold next? at h
  split at h
  all_goals grind [length_splitName, length_splitName_cons, length_splitNumber, continuesName,
    → length_comment?,
    → length_afterQuote?, → length_splitQuoted, Option.map_eq_some_iff]

def ofText? (s : List Char) : Option (List Lexeme) :=
  if s.isEmpty then some []
  else
    match _ : next? s with
    | none => none
    | some (l, rest) => (ofText? rest).map (l.toList ++ ·)
termination_by s.length
decreasing_by exact length_next? (by assumption)

end Lexeme

end FieldMapping
