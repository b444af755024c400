import FieldMapping.Text.Digits

/-! Finite binary64 numbers, as a sign and the 63 bits below it, and the
rounding of exact quotients onto them. Everything is counted in natural
numbers; no floating-point operation is used, so a proof can follow each step. -/

namespace FieldMapping

/-- The count of significands that share an exponent, `2 ^ 52`. -/
abbrev binade : Nat := 4503599627370496

def infinityBits : Nat := 2047 * binade

structure Binary64 where
  negative : Bool
  magnitude : Nat
  finite : magnitude < infinityBits
deriving DecidableEq

namespace Binary64

def bits (x : Binary64) : Nat := (if x.negative then 2048 * binade else 0) + x.magnitude

def zero (negative : Bool) : Binary64 := ⟨negative, 0, by decide⟩

/-- Magnitudes grow with the number they stand for, so they order the numbers of
one sign; both zeros get the key 0. -/
def order (x : Binary64) : Int := if x.negative then -(x.magnitude : Int) else x.magnitude

@[simp] theorem order_zero (negative : Bool) : (zero negative).order = 0 := by
  cases negative <;> rfl

/-- The two natural numbers `s` and `e` with magnitude `s · 2 ^ (e - 1074)`. -/
def parts (x : Binary64) : Nat × Nat :=
  let e := x.magnitude / binade
  if e = 0 then (x.magnitude, 0) else (binade + x.magnitude % binade, e - 1)

/-- The quotient to the nearest integer, a half to the even neighbour. -/
def roundDiv (num den : Nat) : Nat :=
  let q := num / den
  let r := num % den
  if 2 * r < den then q
  else if den < 2 * r then q + 1
  else if q % 2 = 0 then q else q + 1

theorem roundDiv_one (num : Nat) : roundDiv num 1 = num := by
  simp [roundDiv, Nat.mod_one]

def inUnits (num den : Nat) (e : Int) : Nat × Nat :=
  if 0 ≤ e then (num, den * Nat.pow 2 e.toNat) else (num * Nat.pow 2 (-e).toNat, den)

/-- The exponent of the last place that a positive quotient gets: the one that
leaves it below two binades of units, but no finer than the smallest positive number. -/
def lastPlace (num den : Nat) : Int :=
  let e : Int := (num.log2 : Int) - den.log2 - 53
  let (n, d) := inUnits num den e
  max (-1074) (if n / d < 2 * binade then e else e + 1)

/-- The magnitude nearest to `num / den`; it may lie beyond the finite ones. A
carry out of the significand moves into the exponent, as it should. -/
def roundedMagnitude (num den : Nat) : Nat :=
  if num = 0 then 0
  else
    let e := lastPlace num den
    let (n, d) := inUnits num den e
    (e + 1074).toNat * binade + roundDiv n d

def ofRatio? (negative : Bool) (num den : Nat) : Option Binary64 :=
  let m := roundedMagnitude num den
  if h : m < infinityBits then some ⟨negative, m, h⟩ else none

/-- Decimals this far out are zero or too large whatever their digits, and their
power of ten is never formed. -/
def decimalReach : Int := 400

/-- The number nearest to `± digits · 10 ^ exponent`, if it is finite. -/
def ofDecimal? (negative : Bool) (digits : Nat) (exponent : Int) : Option Binary64 :=
  let top : Int := (Text.digits digits).length + exponent
  if digits = 0 ∨ top < -decimalReach then some (zero negative)
  else if decimalReach < top then none
  else if 0 ≤ exponent then ofRatio? negative (digits * Nat.pow 10 exponent.toNat) 1
  else ofRatio? negative digits (Nat.pow 10 (-exponent).toNat)

def ratio (x : Binary64) : Nat × Nat :=
  let (s, e) := x.parts
  if 1074 ≤ e then (s * Nat.pow 2 (e - 1074), 1) else (s, Nat.pow 2 (1074 - e))

def lastPower : Nat := 308

def powerOfTen? (k : Nat) : Option Binary64 :=
  if lastPower < k then none else ofRatio? false (Nat.pow 10 k) 1

def raise? (x : Binary64) (k : Nat) : Option Binary64 :=
  (powerOfTen? k).bind fun p =>
    ofRatio? x.negative (x.ratio.1 * p.ratio.1) (x.ratio.2 * p.ratio.2)

/-- `x / 10 ^ k` in steps of at most 308 places, each of them rounded. -/
def lower? (x : Binary64) (k : Nat) : Option Binary64 :=
  let quotient (k : Nat) : Option Binary64 := (powerOfTen? k).bind fun p =>
    ofRatio? x.negative (x.ratio.1 * p.ratio.2) (x.ratio.2 * p.ratio.1)
  if k ≤ lastPower then quotient k
  else if x.magnitude = 0 then some x
  else (quotient lastPower).bind fun y => y.lower? (k - lastPower)
termination_by k
decreasing_by simp [lastPower] at *; omega

/-- `± digits · 10 ^ exponent` rounded twice, first the digits and then what they
are scaled to; the result may be the neighbour of the nearest number. -/
def ofScaled? (negative : Bool) (digits : Nat) (exponent : Int) : Option Binary64 :=
  (ofRatio? negative digits 1).bind fun x =>
    if digits = 0 then some x
    else if 0 ≤ exponent then x.raise? exponent.toNat
    else x.lower? (-exponent).toNat

def hex (x : Binary64) : String :=
  let s := Nat.toDigits 16 x.bits
  String.ofList (List.replicate (16 - s.length) '0' ++ s)

end Binary64

end FieldMapping
