import FieldMapping.Calendar.Layouts
import FieldMapping.Json.Value

/-! Filters by column: each column has one condition, or several joined by one
connective. What a condition may test, and what it then needs as its operand,
depends on the kind of the filter. -/

namespace FieldMapping

namespace Filter

inductive Kind where
  | text | number | date | set | boolean
deriving DecidableEq

namespace Kind

def all : List Kind := [text, number, date, set, boolean]

def name : Kind → String
  | text => "text"
  | number => "number"
  | date => "date"
  | set => "set"
  | boolean => "boolean"

def ofName? (s : String) : Option Kind := all.find? fun k => k.name == s

theorem ofName?_name (k : Kind) : ofName? k.name = some k := by
  cases k <;> decide

theorem name_of_ofName? {s : String} {k : Kind} (h : ofName? s = some k) : k.name = s := by
  simpa using List.find?_some h

end Kind

inductive Test where
  | equals | notEqual | contains | notContains | startsWith | endsWith
  | lessThan | lessThanOrEqual | greaterThan | greaterThanOrEqual
  | inRange | blank | notBlank | isIn
deriving DecidableEq

namespace Test

def all : List Test :=
  [equals, notEqual, contains, notContains, startsWith, endsWith, lessThan, lessThanOrEqual,
   greaterThan, greaterThanOrEqual, inRange, blank, notBlank, isIn]

def name : Test → String
  | equals => "equals"
  | notEqual => "notEqual"
  | contains => "contains"
  | notContains => "notContains"
  | startsWith => "startsWith"
  | endsWith => "endsWith"
  | lessThan => "lessThan"
  | lessThanOrEqual => "lessThanOrEqual"
  | greaterThan => "greaterThan"
  | greaterThanOrEqual => "greaterThanOrEqual"
  | inRange => "inRange"
  | blank => "blank"
  | notBlank => "notBlank"
  | isIn => "in"

def ofName? (s : String) : Option Test := all.find? fun t => t.name == s

theorem ofName?_name (t : Test) : ofName? t.name = some t := by
  cases t <;> decide

theorem name_of_ofName? {s : String} {t : Test} (h : ofName? s = some t) : t.name = s := by
  simpa using List.find?_some h

end Test

def Kind.tests : Kind → List Test
  | text =>
    [.equals, .notEqual, .contains, .notContains, .startsWith, .endsWith, .blank, .notBlank]
  | number =>
    [.equals, .notEqual, .lessThan, .lessThanOrEqual, .greaterThan, .greaterThanOrEqual,
     .inRange, .blank, .notBlank]
  | date => [.equals, .notEqual, .lessThan, .greaterThan, .inRange, .blank, .notBlank]
  | set => [.isIn]
  | boolean => [.equals, .notEqual, .blank, .notBlank]

def Kind.supports (k : Kind) (t : Test) : Bool := k.tests.contains t

inductive Connective where
  | and | or
deriving DecidableEq

def Connective.name : Connective → String
  | and => "and"
  | or => "or"

/-- The case of ASCII letters does not matter. -/
def Connective.ofName? (s : String) : Option Connective :=
  let t := String.ofList (s.toList.map Char.toLower)
  if t = "and" then some .and else if t = "or" then some .or else none

inductive Scalar where
  | text (s : String)
  | number (n : Number)
  | date (m : Calendar.Moment)
  | boolean (b : Bool)
deriving DecidableEq

namespace Scalar

/-- The value in the data format; the fraction of a second is lost on the way. -/
def toValue : Scalar → Value
  | text s => .string s
  | number n => .number n
  | date m => .string m.render
  | boolean b => .bool b

/-- Numbers and moments have an order, and only among themselves. -/
def compare? : Scalar → Scalar → Option Ordering
  | number a, number b => some (compare a.order b.order)
  | date a, date b => some (compare a.order b.order)
  | _, _ => none

end Scalar

inductive Operand where
  | none
  | single (value : Scalar)
  | range (low high : Scalar)
  | list (values : List Scalar)
deriving DecidableEq

structure Condition where
  kind : Kind
  test : Test
  operand : Operand
deriving DecidableEq

inductive Column where
  | single (condition : Condition)
  | joined (connective : Connective) (conditions : List Condition)
deriving DecidableEq

def Column.conditions : Column → List Condition
  | single c => [c]
  | joined _ cs => cs

end Filter

structure Filter where
  columns : List (String × Filter.Column)
deriving DecidableEq

namespace Filter

def empty : Filter := ⟨[]⟩

def push (f : Filter) (name : String) (column : Column) : Filter :=
  ⟨f.columns ++ [(name, column)]⟩

def size (f : Filter) : Nat := f.columns.length

def get? (f : Filter) (name : String) : Option Column := Assoc.get? f.columns name

end Filter

end FieldMapping
