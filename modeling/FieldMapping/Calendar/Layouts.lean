import FieldMapping.Calendar.Date
import FieldMapping.Text.Blank
import FieldMapping.Text.Digits

/-! The three ways in which a moment may be written, and the one in which it is
printed: `Y-m-d H:M:S`, the RFC 3339 form with an offset, and a bare day. They are
tried in this order on the text without the white space around it. -/

namespace FieldMapping.Calendar

abbrev Scan (α : Type) := List Char → Option (α × List Char)

def number (least most : Nat) : Scan Nat := fun s =>
  let ds := (Text.splitDigits s).1.take most
  if ds.length < least then none else some (Text.valueOf ds, s.drop ds.length)

def mark (p : Char → Bool) : Scan Unit
  | c :: s => if p c then some ((), s) else none
  | [] => none

/-- Without a sign a year has up to four digits, behind one any number. -/
def year : Scan Int := fun s =>
  match Text.trimLeft s with
  | '-' :: r => (number 1 r.length r).map fun (n, t) => (-(n : Int), t)
  | '+' :: r => (number 1 r.length r).map fun (n, t) => ((n : Int), t)
  | r => (number 1 4 r).map fun (n, t) => ((n : Int), t)

def twoDigits : Scan Nat := fun s => number 1 2 (Text.trimLeft s)

def looseDate : Scan Date := fun s => do
  let (y, s) ← year s
  let ((), s) ← mark (· == '-') s
  let (m, s) ← twoDigits s
  let ((), s) ← mark (· == '-') s
  let (d, s) ← twoDigits s
  let date ← Date.ofParts? y m d
  some (date, s)

/-- `Y-m-d H:M:S`; the white space in the middle may be missing. -/
def ofLocal? (s : List Char) : Option Moment := do
  let (date, s) ← looseDate s
  let (hour, s) ← twoDigits s
  let ((), s) ← mark (· == ':') s
  let (minute, s) ← twoDigits s
  let ((), s) ← mark (· == ':') s
  let (second, s) ← twoDigits s
  if s = [] then Moment.ofParts? date hour minute second 0 else none

/-- Nanoseconds of a fraction, of which the first nine digits count. -/
def fraction : Scan Nat := fun s =>
  match s with
  | '.' :: r =>
    let (ds, t) := Text.splitDigits r
    let kept := ds.take 9
    if ds = [] then none else some (Text.valueOf kept * Nat.pow 10 (9 - kept.length), t)
  | _ => some (0, s)

def offset : Scan Int := fun s =>
  match s with
  | [] => none
  | c :: r =>
    if c = 'Z' ∨ c = 'z' then some (0, r)
    else if c = '+' ∨ c = '-' ∨ c = '−' then do
      let (hours, r) ← number 2 2 r
      let ((), r) ← mark (· == ':') r
      let (minutes, r) ← number 2 2 r
      let seconds : Int := hours * 3600 + minutes * 60
      if minutes ≤ 59 then some (if c = '+' then seconds else -seconds, r) else none
    else none

def ofInternet? (s : List Char) : Option Moment := do
  let (y, s) ← number 4 4 s
  let ((), s) ← mark (· == '-') s
  let (m, s) ← number 2 2 s
  let ((), s) ← mark (· == '-') s
  let (d, s) ← number 2 2 s
  let ((), s) ← mark (fun c => c == 'T' || c == 't' || c == ' ') s
  let (hour, s) ← number 2 2 s
  let ((), s) ← mark (· == ':') s
  let (minute, s) ← number 2 2 s
  let ((), s) ← mark (· == ':') s
  let (second, s) ← number 2 2 s
  let (nano, s) ← fraction s
  let (seconds, s) ← offset s
  let date ← Date.ofParts? y m d
  let moment ← Moment.ofParts? date hour minute second nano
  if h : s = [] ∧ (-86400 < seconds ∧ seconds < 86400) then some (moment.back seconds h.2) else none

def ofDay? (s : List Char) : Option Moment := do
  let (date, s) ← looseDate s
  if s = [] then some (Moment.midnight date) else none

def Moment.ofText? (s : String) : Option Moment :=
  let t := Text.trim s.toList
  (ofLocal? t).or ((ofInternet? t).or (ofDay? t))

/-- Years of up to four digits stand alone, all others behind a sign. -/
def yearText (y : Int) : List Char :=
  if 0 ≤ y ∧ y ≤ 9999 then Text.padded 4 y.toNat
  else (if y < 0 then '-' else '+') :: Text.padded 4 y.natAbs

def Date.text (d : Date) : List Char :=
  yearText d.year ++ '-' :: Text.padded 2 d.month ++ '-' :: Text.padded 2 d.day

def Moment.render (m : Moment) : String :=
  String.ofList <|
    m.date.text ++ ' ' :: Text.padded 2 (m.second / 3600)
      ++ ':' :: Text.padded 2 (m.second / 60 % 60)
      ++ ':' :: Text.padded 2 (m.second % 60 + m.nano / 1000000000)

end FieldMapping.Calendar
