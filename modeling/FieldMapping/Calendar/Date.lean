/-! Days of the proleptic Gregorian calendar and moments of time on them.
A day only ever moves to a neighbour here, so no count of days is kept; the order
of days and of moments is that of a number built from their parts. -/

namespace FieldMapping.Calendar

def isLeap (year : Int) : Bool := year % 4 == 0 && (year % 100 != 0 || year % 400 == 0)

def monthLength (year : Int) (month : Nat) : Nat :=
  if month = 2 then (if isLeap year then 29 else 28)
  else if month = 4 ∨ month = 6 ∨ month = 9 ∨ month = 11 then 30
  else 31

theorem monthLength_bounds (year : Int) (month : Nat) :
    28 ≤ monthLength year month ∧ monthLength year month ≤ 31 := by
  unfold monthLength
  repeat' split
  all_goals omega

structure Date where
  year : Int
  month : Nat
  day : Nat
  month_valid : 1 ≤ month ∧ month ≤ 12
  day_valid : 1 ≤ day ∧ day ≤ monthLength year month
deriving DecidableEq

namespace Date

def leastYear : Int := -262143

def greatestYear : Int := 262142

def ofParts? (year : Int) (month day : Nat) : Option Date :=
  if h : (1 ≤ month ∧ month ≤ 12) ∧ (1 ≤ day ∧ day ≤ monthLength year month) then
    if leastYear ≤ year ∧ year ≤ greatestYear then some ⟨year, month, day, h.1, h.2⟩ else none
  else none

def next (d : Date) : Date :=
  if h : d.day < monthLength d.year d.month then
    ⟨d.year, d.month, d.day + 1, d.month_valid, by omega, h⟩
  else if hm : d.month < 12 then
    ⟨d.year, d.month + 1, 1, by omega, by have := monthLength_bounds d.year (d.month + 1); omega⟩
  else ⟨d.year + 1, 1, 1, by omega, by decide, by have := monthLength_bounds (d.year + 1) 1; omega⟩

def previous (d : Date) : Date :=
  if h : 1 < d.day then
    ⟨d.year, d.month, d.day - 1, d.month_valid, by omega, by have := d.day_valid; omega⟩
  else if hm : 1 < d.month then
    ⟨d.year, d.month - 1, monthLength d.year (d.month - 1), by have := d.month_valid; omega,
      by have := monthLength_bounds d.year (d.month - 1); omega, Nat.le_refl _⟩
  else
    ⟨d.year - 1, 12, monthLength (d.year - 1) 12, by omega,
      by have := monthLength_bounds (d.year - 1) 12; omega, Nat.le_refl _⟩

def order (d : Date) : Int := (d.year * 16 + d.month) * 32 + d.day

end Date

/-- A moment in UTC. A leap second is the one before it, with a billion more
nanoseconds. -/
structure Moment where
  date : Date
  second : Nat
  nano : Nat
  second_valid : second < 86400
  nano_valid : nano < 2000000000
deriving DecidableEq

namespace Moment

def midnight (d : Date) : Moment := ⟨d, 0, 0, by decide, by decide⟩

def ofParts? (date : Date) (hour minute second fraction : Nat) : Option Moment :=
  let (s, n) := if second = 60 then (59, 1000000000 + fraction) else (second, fraction)
  let t := hour * 3600 + minute * 60 + s
  if h : hour ≤ 23 ∧ minute ≤ 59 ∧ s ≤ 59 ∧ n < 2000000000 then
    some ⟨date, t, n, by omega, h.2.2.2⟩
  else none

/-- Local time to UTC, for an offset of less than a day. -/
def back (m : Moment) (offset : Int) (h : -86400 < offset ∧ offset < 86400) : Moment :=
  let t := (m.second : Int) - offset
  if ht : t < 0 then
    ⟨m.date.previous, (t + 86400).toNat, m.nano, by have := m.second_valid; omega, m.nano_valid⟩
  else if hu : 86400 ≤ t then
    ⟨m.date.next, (t - 86400).toNat, m.nano, by have := m.second_valid; omega, m.nano_valid⟩
  else ⟨m.date, t.toNat, m.nano, by omega, m.nano_valid⟩

def order (m : Moment) : Int := (m.date.order * 86400 + m.second) * 2000000000 + m.nano

end Moment

end FieldMapping.Calendar
