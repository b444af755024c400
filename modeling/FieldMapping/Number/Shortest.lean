import FieldMapping.Number.Binary64

/-! The shortest decimal that reads back as a given binary64 number.
Among the decimals of fewest digits it is the one nearest to the number. The
layout follows: positional from 1e-5 up to 1e16, scientific outside. -/

namespace FieldMapping.Binary64

/-- The reals that round to a positive number, as natural numbers counted in
units of `2 ^ (e - 1076)`; the ends belong to it when the significand is even. -/
structure Basin where
  low : Nat
  centre : Nat
  high : Nat
  exponent : Nat
  closed : Bool

/-- Below a power of two the numbers lie twice as close as above it. -/
def basin (x : Binary64) : Basin :=
  let (s, e) := x.parts
  let low := if s = binade ∧ 0 < e then 4 * s - 1 else 4 * s - 2
  ⟨low, 4 * s, 4 * s + 2, e, s % 2 = 0⟩

def Basin.quotient (b : Basin) (n : Nat) : Nat × Nat :=
  if 1076 ≤ b.exponent then (n * Nat.pow 2 (b.exponent - 1076), 1)
  else (n, Nat.pow 2 (1076 - b.exponent))

def inTens (num den : Nat) (k : Int) : Nat × Nat :=
  if 0 ≤ k then (num, den * Nat.pow 10 k.toNat) else (num * Nat.pow 10 (-k).toNat, den)

def leadingPlace (num den : Nat) : Int :=
  if den ≤ num then (Text.digits (num / den)).length - 1
  else
    let d := (Text.digits (den / num)).length
    if den = num * Nat.pow 10 (d - 1) then -(d - 1 : Int) else -d

/-- Whether `c · 10 ^ k` reads back as the number of the basin. -/
def Basin.holds (b : Basin) (c : Nat) (k : Int) : Bool :=
  let (low, lowDen) := b.quotient b.low
  let (ln, ld) := inTens low lowDen k
  let (high, highDen) := b.quotient b.high
  let (hn, hd) := inTens high highDen k
  if b.closed then ln ≤ c * ld && c * hd ≤ hn else ln < c * ld && c * hd < hn

/-- The nearest point of the grid of `10 ^ k` that lies in the basin. -/
def Basin.onGrid? (b : Basin) (k : Int) : Option Nat :=
  let (num, den) := b.quotient b.centre
  let (n, d) := inTens num den k
  let below := n / d
  match b.holds below k, b.holds (below + 1) k with
  | true, true => some (roundDiv n d)
  | true, false => some below
  | false, true => some (below + 1)
  | false, false => none

/-- Tries grids from coarse to fine; seventeen digits always suffice. -/
def Basin.search (b : Basin) (place : Int) : Nat → Nat → Nat × Int
  | 0, _ => (0, 0)
  | fuel + 1, n =>
    let k := place - n
    match b.onGrid? k with
    | some c => (c, k)
    | none => search b place fuel (n + 1)

def dropZeros : Nat → Nat → Int → Nat × Int
  | 0, c, k => (c, k)
  | fuel + 1, c, k => if c ≠ 0 ∧ c % 10 = 0 then dropZeros fuel (c / 10) (k + 1) else (c, k)

def shortest (x : Binary64) : Nat × Int :=
  if x.magnitude = 0 then (0, 0)
  else
    let b := x.basin
    let (num, den) := b.quotient b.centre
    let (c, k) := b.search (leadingPlace num den) 17 0
    dropZeros 20 c k

structure DecimalLayout where
  leastPoint : Int
  greatestPoint : Int

/-- The point may stand up to sixteen places behind the first digit and up to
four zeros before it. -/
def plainLayout : DecimalLayout := ⟨-5, 16⟩

def layOut (form : DecimalLayout) (c : Nat) (k : Int) : List Char :=
  let ds := Text.digits c
  let point : Int := ds.length + k
  if 0 ≤ k ∧ point ≤ form.greatestPoint then
    ds ++ List.replicate k.toNat '0' ++ ['.', '0']
  else if 0 < point ∧ point ≤ form.greatestPoint then
    ds.take point.toNat ++ '.' :: ds.drop point.toNat
  else if form.leastPoint < point ∧ point ≤ 0 then
    ['0', '.'] ++ List.replicate (-point).toNat '0' ++ ds
  else
    let e := point - 1
    let tail := if e < 0 then '-' :: Text.digits e.natAbs else Text.digits e.natAbs
    match ds with
    | [d] => d :: 'e' :: tail
    | d :: rest => d :: '.' :: rest ++ 'e' :: tail
    | [] => []

def render (x : Binary64) : String :=
  let (c, k) := x.shortest
  let body := layOut plainLayout c k
  String.ofList (if x.negative then '-' :: body else body)

end FieldMapping.Binary64
