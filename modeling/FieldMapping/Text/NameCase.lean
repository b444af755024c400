import FieldMapping.Text.Cased
import FieldMapping.Text.Cluster
import FieldMapping.Text.Digits

/-! Words of an identifier, and the eight ways of writing them together.
Underscores separate words and go away; words also part where the case or the
digits change. An underscore at either end leaves an empty word there. -/

namespace FieldMapping.Text

namespace Cluster

def isUpper (g : Cluster) : Bool := upperText g != lowerText g && upperText g == g

def isLower (g : Cluster) : Bool := upperText g != lowerText g && lowerText g == g

def isCasedLetter (g : Cluster) : Bool := isUpper g || isLower g

def isDigits (g : Cluster) : Bool := g.all isDigit

end Cluster

/-- Whether a word ends between a cluster and what follows it. The last of a run
of capitals belongs to the lower-case letter behind it. -/
def endsWord (g : Cluster) : List Cluster → Bool
  | [] => false
  | h :: rest =>
    (g.isLower && h.isUpper) || (g.isCasedLetter && h.isDigits) || (g.isDigits && h.isCasedLetter)
      || (g.isUpper && h.isUpper && rest.head?.any Cluster.isLower)

def wordsAfter (word : List Char) : List Cluster → List (List Char)
  | [] => [word]
  | g :: rest =>
    if g = ['_'] then word :: wordsAfter [] rest
    else if endsWord g rest then (word ++ g) :: wordsAfter [] rest
    else wordsAfter (word ++ g) rest

def words (s : List Char) : List (List Char) := wordsAfter [] (clusters s)

inductive NameCase where
  | lowercase | uppercase | pascal | camel | snake | screamingSnake | kebab | screamingKebab
deriving DecidableEq

namespace NameCase

def all : List NameCase :=
  [lowercase, uppercase, pascal, camel, snake, screamingSnake, kebab, screamingKebab]

def name : NameCase → String
  | lowercase => "lowercase"
  | uppercase => "UPPERCASE"
  | pascal => "PascalCase"
  | camel => "camelCase"
  | snake => "snake_case"
  | screamingSnake => "SCREAMING_SNAKE_CASE"
  | kebab => "kebab-case"
  | screamingKebab => "SCREAMING-KEBAB-CASE"

def ofName? (s : String) : Option NameCase := all.find? fun c => c.name == s

theorem ofName?_name (c : NameCase) : ofName? c.name = some c := by
  cases c <;> decide

def separator : NameCase → List Char
  | lowercase | uppercase => [' ']
  | pascal | camel => []
  | snake | screamingSnake => ['_']
  | kebab | screamingKebab => ['-']

def writeWords : NameCase → List (List Char) → List (List Char)
  | lowercase, ws | snake, ws | kebab, ws => ws.map lowerText
  | uppercase, ws | screamingSnake, ws | screamingKebab, ws => ws.map upperText
  | pascal, ws => ws.map capitalize
  | camel, [] => []
  | camel, w :: ws => lowerText w :: ws.map capitalize

def apply (c : NameCase) (s : String) : String :=
  String.ofList (c.separator.intercalate (c.writeWords (words s.toList)))

end NameCase

end FieldMapping.Text
