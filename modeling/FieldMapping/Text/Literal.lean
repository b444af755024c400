import FieldMapping.Text.Unprinted

/-! Text between quotes. A literal escapes what would end it or could not be
seen; a quoted identifier only writes each of its own quotes twice. -/

namespace FieldMapping.Text

def codePoint (c : Char) : List Char :=
  ['\\', 'u', '\x7b'] ++ Nat.toDigits 16 c.toNat ++ ['\x7d']

def escape (c : Char) : List Char :=
  if c = '"' then ['\\', '"']
  else if c = '\\' then ['\\', '\\']
  else if c = '\n' then ['\\', 'n']
  else if c = '\r' then ['\\', 'r']
  else if c = '\t' then ['\\', 't']
  else if c = '\x00' then ['\\', '0']
  else if isUnprinted c then codePoint c
  else [c]

def literal (s : String) : String :=
  String.ofList ('"' :: s.toList.flatMap escape ++ ['"'])

def isOctal (c : Char) : Bool := '0' ≤ c && c ≤ '7'

/-- A zero before an octal digit is spelt in hexadecimal, so that the two cannot
be taken for one octal escape. -/
def escapeSource : List Char → List Char
  | [] => []
  | c :: s =>
    (if c = '\x00' ∧ (s.head?.any isOctal) = true then ['\\', 'x', '0', '0'] else escape c)
      ++ escapeSource s

def sourceLiteral (s : String) : String :=
  String.ofList ('"' :: escapeSource s.toList ++ ['"'])

def doubleQuotes : List Char → List Char
  | [] => []
  | c :: s => if c = '"' then '"' :: '"' :: doubleQuotes s else c :: doubleQuotes s

/-- A quote inside a quoted identifier is written twice. -/
def quotedIdentifier (s : String) : String :=
  String.ofList ('"' :: doubleQuotes s.toList ++ ['"'])

end FieldMapping.Text
