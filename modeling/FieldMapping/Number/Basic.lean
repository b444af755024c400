import FieldMapping.Number.Shortest
import FieldMapping.Text.Blank

/-! Numbers of the data format: an integer of at most 64 bits, signed below zero
and unsigned above, or else a binary64 number. An integer and a binary64 number
are never equal, yet they are compared by the binary64 number nearest to each. -/

namespace FieldMapping

inductive Number where
  | int (value : Int) (bounds : -9223372036854775808 ≤ value ∧ value < 18446744073709551616)
  | double (value : Binary64)
deriving DecidableEq

namespace Number

def order : Number → Int
  | int value _ =>
    let m : Int := Binary64.roundedMagnitude value.natAbs 1
    if value < 0 then -m else m
  | double value => value.order

def render : Number → String
  | int value _ => Text.ofInt value
  | double value => value.render

def ofUInt64 (n : UInt64) : Number :=
  int n.toNat ⟨by omega, by have := n.toNat_lt; omega⟩

/-- Digits taken into a count for as long as 64 bits hold it, and those left over. -/
def gather (count : Nat) : List Char → Nat × List Char
  | [] => (count, [])
  | d :: ds =>
    let next := count * 10 + Text.digitValue d
    if next < 18446744073709551616 then gather next ds else (count, d :: ds)

/-- An integer as it is written in the data format. Minus zero, and what does not
fit into 64 bits, is a binary64 number. -/
def ofInteger? (negative : Bool) (whole : List Char) : Option Number :=
  let (count, left) := gather 0 whole
  let value : Int := if negative then -(count : Int) else count
  if negative && count == 0 then some (double (Binary64.zero true))
  else if h : left = [] ∧ -9223372036854775808 ≤ value ∧ value < 18446744073709551616 then
    some (int value h.2)
  else (Binary64.ofScaled? negative count left.length).map double

/-- A number with a point or an exponent is never an integer. Its leading digits
are read in full and the others only move the point. -/
def ofDecimal? (negative : Bool) (whole fraction : List Char) (exponent : Int) :
    Option Number :=
  let (count, left) := gather 0 whole
  let (count, below) := gather count fraction
  let places : Int := left.length + below.length - fraction.length
  (Binary64.ofScaled? negative count (exponent + places)).map double

def splitSign : List Char → Bool × List Char
  | '-' :: s => (true, s)
  | '+' :: s => (false, s)
  | s => (false, s)

/-- A signed 64-bit integer: one optional sign and then digits only. -/
def integerOfText? (s : List Char) : Option Number :=
  let (negative, ds) := splitSign s
  if ds = [] ∨ ds.all Text.isDigit = false then none
  else
    let value : Int := if negative then -(Text.valueOf ds : Int) else Text.valueOf ds
    if h : -9223372036854775808 ≤ value ∧ value < 9223372036854775808 then
      some (int value ⟨h.1, Int.lt_trans h.2 (by decide)⟩)
    else none

def exponentOfText? : List Char → Option Int
  | [] => some 0
  | c :: s =>
    if c = 'e' ∨ c = 'E' then
      let (negative, ds) := splitSign s
      if ds = [] ∨ ds.all Text.isDigit = false then none
      else some (if negative then -(Text.valueOf ds : Int) else Text.valueOf ds)
    else none

/-- A decimal: an optional sign, digits with an optional point and at least one
digit beside it, an optional exponent. Too large a decimal is no number. -/
def decimalOfText? (s : List Char) : Option Number :=
  let (negative, body) := splitSign s
  let (whole, rest) := Text.splitDigits body
  let (fraction, tail) := match rest with
    | '.' :: r => Text.splitDigits r
    | r => ([], r)
  if whole = [] ∧ fraction = [] then none
  else
    (exponentOfText? tail).bind fun e =>
      (Binary64.ofDecimal? negative (Text.valueOf (whole ++ fraction))
        (e - fraction.length)).map double

/-- Integers are tried first, so an integral text of at most 63 bits keeps every
digit; white space around the number does not count. -/
def ofText? (s : String) : Option Number :=
  let t := Text.trim s.toList
  (integerOfText? t).or (decimalOfText? t)

end Number

end FieldMapping
