import FieldMapping.Calendar.Date
import Mathlib.Order.Monotone.Basic

/-! Days counted from the first of January of the year 1, and moments in seconds from
there. The neighbours of a day are one day away, across months, leap days and years, and
no two days have one number, so local time less its offset is one moment in UTC. -/

namespace FieldMapping.Calendar

def daysOfMonths (year : Int) : Nat → Nat
  | 0 => 0
  | month + 1 => daysOfMonths year month + monthLength year (month + 1)

theorem daysOfMonths_of_pos (year : Int) {month : Nat} (later : 1 ≤ month) :
    daysOfMonths year month = daysOfMonths year (month - 1) + monthLength year month := by
  obtain ⟨before, rfl⟩ : ∃ m, month = m + 1 := ⟨month - 1, by omega⟩
  rfl

/-- Days before a year. Of the years up to it every fourth is a leap year, every hundredth
is not, and every four hundredth is again. -/
def daysBefore (year : Int) : Int :=
  365 * (year - 1) + (year - 1) / 4 - (year - 1) / 100 + (year - 1) / 400

theorem daysOfMonths_year (year : Int) :
    daysOfMonths year 12 = if isLeap year then 366 else 365 := by
  cases leap : isLeap year <;> simp [daysOfMonths, monthLength, leap]

theorem isLeap_iff (year : Int) :
    isLeap year = true ↔ year % 4 = 0 ∧ (year % 100 ≠ 0 ∨ year % 400 = 0) := by
  simp [isLeap]

theorem daysBefore_succ (year : Int) :
    daysBefore (year + 1) = daysBefore year + daysOfMonths year 12 := by
  rw [daysOfMonths_year]
  unfold daysBefore
  by_cases leap : isLeap year = true
  · rw [if_pos leap]
    rw [isLeap_iff] at leap
    omega
  · rw [if_neg leap]
    rw [isLeap_iff] at leap
    omega

theorem daysOfMonths_mono (year : Int) : Monotone (daysOfMonths year) :=
  monotone_nat_of_le_succ fun _ => Nat.le_add_right _ _

theorem daysBefore_mono {year later : Int} (order : year ≤ later) :
    daysBefore year ≤ daysBefore later := by
  unfold daysBefore
  omega

namespace Date

def dayNumber (d : Date) : Int := daysBefore d.year + daysOfMonths d.year (d.month - 1) + d.day

theorem dayNumber_in_month (d : Date) :
    daysBefore d.year + daysOfMonths d.year (d.month - 1) < d.dayNumber ∧
      d.dayNumber ≤ daysBefore d.year + daysOfMonths d.year d.month := by
  have day := d.day_valid
  rw [daysOfMonths_of_pos d.year d.month_valid.1, dayNumber]
  omega

theorem dayNumber_in_year (d : Date) :
    daysBefore d.year < d.dayNumber ∧ d.dayNumber ≤ daysBefore (d.year + 1) := by
  have month := d.dayNumber_in_month
  have start : daysOfMonths d.year 0 = 0 := rfl
  have first := daysOfMonths_mono d.year (Nat.zero_le (d.month - 1))
  have last := daysOfMonths_mono d.year d.month_valid.2
  rw [daysBefore_succ]
  omega

theorem year_eq_of_dayNumber_eq {d e : Date} (same : d.dayNumber = e.dayNumber) :
    d.year = e.year := by
  have inYear := d.dayNumber_in_year
  have inOther := e.dayNumber_in_year
  -- the days of an earlier year all come before the first of a later one
  rcases Int.lt_trichotomy d.year e.year with earlier | equal | later
  · have order := daysBefore_mono (show d.year + 1 ≤ e.year from earlier)
    omega
  · exact equal
  · have order := daysBefore_mono (show e.year + 1 ≤ d.year from later)
    omega

theorem eq_of_dayNumber_eq {d e : Date} (same : d.dayNumber = e.dayNumber) : d = e := by
  have year := year_eq_of_dayNumber_eq same
  have inMonth := d.dayNumber_in_month
  have inOther := e.dayNumber_in_month
  have month : d.month = e.month := by
    have ahead := d.month_valid
    have behind := e.month_valid
    rw [← year] at inOther
    rcases Nat.lt_trichotomy d.month e.month with earlier | equal | later
    · have order := daysOfMonths_mono d.year (show d.month ≤ e.month - 1 by omega)
      omega
    · exact equal
    · have order := daysOfMonths_mono d.year (show e.month ≤ d.month - 1 by omega)
      omega
  obtain ⟨year', month', day', _, _⟩ := d
  obtain ⟨year'', month'', day'', _, _⟩ := e
  cases year
  cases month
  have day : day' = day'' := by
    simp only [dayNumber] at same
    omega
  cases day
  rfl

theorem dayNumber_next (d : Date) : d.next.dayNumber = d.dayNumber + 1 := by
  have day := d.day_valid
  have month := daysOfMonths_of_pos d.year d.month_valid.1
  unfold next
  split
  · simp only [dayNumber]
    omega
  · split
    · simp only [dayNumber, Nat.add_sub_cancel]
      omega
    · have december : d.month = 12 := by
        have inYear := d.month_valid
        omega
      have year := daysBefore_succ d.year
      have none : daysOfMonths (d.year + 1) (1 - 1) = 0 := rfl
      have all : daysOfMonths d.year d.month = daysOfMonths d.year 12 := by rw [december]
      simp only [dayNumber]
      omega

theorem dayNumber_previous (d : Date) : d.previous.dayNumber = d.dayNumber - 1 := by
  have day := d.day_valid
  unfold previous
  split
  · simp only [dayNumber]
    omega
  · split
    · next later =>
      have month := daysOfMonths_of_pos d.year (show 1 ≤ d.month - 1 by omega)
      simp only [dayNumber]
      omega
    · have january : d.month = 1 := by
        have inYear := d.month_valid
        omega
      have year := daysBefore_succ (d.year - 1)
      have month := daysOfMonths_of_pos (d.year - 1) (show 1 ≤ 12 by decide)
      have none : daysOfMonths d.year (1 - 1) = 0 := rfl
      rw [Int.sub_add_cancel] at year
      simp only [dayNumber, january]
      omega

end Date

namespace Moment

/-- Whole seconds; a leap second has the number of the one before it. -/
def instant (m : Moment) : Int := m.date.dayNumber * 86400 + m.second

theorem eq_of_instant_eq {m m' : Moment} (same : m.instant = m'.instant) (nano : m.nano = m'.nano) :
    m = m' := by
  obtain ⟨date, second, nano', inDay, _⟩ := m
  obtain ⟨date', second', nano'', inDay', _⟩ := m'
  simp only [instant] at same
  have days : date.dayNumber = date'.dayNumber := by omega
  cases Date.eq_of_dayNumber_eq days
  have seconds : second = second' := by omega
  cases seconds
  cases nano
  rfl

theorem nano_back (m : Moment) (offset : Int) (bound : -86400 < offset ∧ offset < 86400) :
    (m.back offset bound).nano = m.nano := by
  unfold back
  dsimp only
  split
  · rfl
  · split <;> rfl

theorem instant_back (m : Moment) (offset : Int) (bound : -86400 < offset ∧ offset < 86400) :
    (m.back offset bound).instant = m.instant - offset := by
  have inDay := m.second_valid
  unfold back
  dsimp only
  split
  · simp only [instant, Date.dayNumber_previous]
    omega
  · split
    · simp only [instant, Date.dayNumber_next]
      omega
    · simp only [instant]
      omega

end Moment

end FieldMapping.Calendar
