import FieldMapping.Proofs.Calendar.DayNumber
import FieldMapping.Proofs.Calendar.Layouts
import Mathlib.Data.List.Basic

/-! Moments as they may be written: a day, a clock time, a fraction of a second and an
offset, each by the numbers in it. What a layout reads of such a text is what the numbers
say, and a text between white space is read as it is without. -/

namespace FieldMapping

namespace Text

structure Tight (s : List Char) : Prop where
  nonempty : s ≠ []
  front : ∀ c ∈ s.head?, isBlank c = false
  back : ∀ c ∈ s.getLast?, isBlank c = false

theorem trimLeft_of_front {s : List Char} (front : ∀ c ∈ s.head?, isBlank c = false) :
    trimLeft s = s := by
  cases s with
  | nil => rfl
  | cons c s => simp [trimLeft, front c rfl]

namespace Tight
variable {s t : List Char}

theorem of_solid (nonempty : s ≠ []) (solid : ∀ c ∈ s, isBlank c = false) : Tight s where
  nonempty := nonempty
  front c hc := solid c (List.mem_of_mem_head? hc)
  back c hc := solid c (List.mem_of_getLast? hc)

theorem append (first : Tight s) (middle : List Char) (last : Tight t) :
    Tight (s ++ (middle ++ t)) where
  nonempty := by simp [first.nonempty]
  front c hc := by
    rw [List.head?_append_of_ne_nil _ first.nonempty] at hc
    exact first.front c hc
  back c hc := by
    rw [← List.append_assoc, List.getLast?_append_of_ne_nil _ last.nonempty] at hc
    exact last.back c hc

theorem trim (tight : Tight s) : trim s = s := by
  have backwards : ∀ c ∈ s.reverse.head?, isBlank c = false := by
    rw [List.head?_reverse]
    exact tight.back
  rw [Text.trim, trimLeft_of_front tight.front, trimLeft_of_front backwards, List.reverse_reverse]

theorem exists_trim_append (tight : Tight s) (rest : List Char) :
    ∃ kept, kept <+: rest ∧ Text.trim (s ++ rest) = s ++ kept := by
  have front : ∀ c ∈ (s ++ rest).head?, isBlank c = false := by
    rw [List.head?_append_of_ne_nil _ tight.nonempty]
    exact tight.front
  have backwards : trimLeft s.reverse = s.reverse := by
    apply trimLeft_of_front
    rw [List.head?_reverse]
    exact tight.back
  refine ⟨(trimLeft rest.reverse).reverse, ?_, ?_⟩
  · rw [← List.reverse_suffix, List.reverse_reverse]
    exact List.dropWhile_suffix isBlank
  · rw [Text.trim, trimLeft_of_front front, List.reverse_append, trimLeft, List.dropWhile_append]
    split
    · next blank =>
      have none : trimLeft rest.reverse = [] := List.isEmpty_iff.1 blank
      rw [← trimLeft, backwards, none]
      simp
    · simp [trimLeft]

end Tight

theorem trim_between_blanks {l r : List Char} (left : l.all isBlank = true)
    (right : r.all isBlank = true) (s : List Char) : trim (l ++ s ++ r) = trim s := by
  rw [trim, trim, List.append_assoc, trimLeft_append_of_blank left]
  by_cases blank : s.all isBlank = true
  · have none : trimLeft s = [] := trimLeft_eq_nil_iff.2 blank
    have all : trimLeft r = [] := trimLeft_eq_nil_iff.2 right
    rw [trimLeft_append_of_blank blank, none, all]
  · have some : (s.dropWhile isBlank).isEmpty = false := by
      rw [List.isEmpty_eq_false_iff]
      exact fun none => blank (trimLeft_eq_nil_iff.1 none)
    have front : trimLeft (s ++ r) = trimLeft s ++ r := by
      rw [trimLeft, List.dropWhile_append, some]
      rfl
    rw [front, List.reverse_append, trimLeft_append_of_blank (by rwa [List.all_reverse])]

structure Numeral (least most n : Nat) (s : List Char) : Prop where
  digits : s.all isDigit = true
  size : least ≤ s.length ∧ s.length ≤ most
  value : valueOf s = n

instance (least most n : Nat) (s : List Char) : Decidable (Numeral least most n s) :=
  decidable_of_iff (s.all isDigit = true ∧ (least ≤ s.length ∧ s.length ≤ most) ∧ valueOf s = n)
    ⟨fun parts => ⟨parts.1, parts.2.1, parts.2.2⟩, fun numeral =>
      ⟨numeral.digits, numeral.size, numeral.value⟩⟩

theorem numeral_padded {width n : Nat} (pos : 0 < width) (small : n < 10 ^ width) :
    Numeral width width n (padded width n) where
  digits := all_isDigit_padded width n
  size := by rw [length_padded pos small]; exact ⟨Nat.le_refl _, Nat.le_refl _⟩
  value := valueOf_padded width n

namespace Numeral
variable {least most n : Nat} {s : List Char}

theorem nonempty (numeral : Numeral least most n s) (pos : 0 < least) : s ≠ [] :=
  List.ne_nil_of_length_pos (Nat.lt_of_lt_of_le pos numeral.size.1)

theorem solid (numeral : Numeral least most n s) : ∀ c ∈ s, isBlank c = false :=
  fun c hc => isBlank_of_isDigit (List.all_eq_true.1 numeral.digits c hc)

theorem lt (numeral : Numeral least most n s) : n < 10 ^ most := by
  rw [← numeral.value]
  exact Nat.lt_of_lt_of_le (valueOf_lt numeral.digits)
    (Nat.pow_le_pow_right (by decide) numeral.size.2)

theorem tight (numeral : Numeral least most n s) (pos : 0 < least) : Tight s :=
  .of_solid (numeral.nonempty pos) numeral.solid

theorem loose {fewer : Nat} (numeral : Numeral least most n s) (fewer_le : fewer ≤ least) :
    Numeral fewer most n s where
  digits := numeral.digits
  size := ⟨Nat.le_trans fewer_le numeral.size.1, numeral.size.2⟩
  value := numeral.value

end Numeral

theorem nanos_of_digits {ds : List Char} (digits : ds.all isDigit = true) :
    valueOf (ds.take 9) * 10 ^ (9 - (ds.take 9).length) = valueOf ds * 10 ^ 9 / 10 ^ ds.length := by
  by_cases short : ds.length ≤ 9
  · rw [List.take_of_length_le short]
    have split : 10 ^ 9 = 10 ^ (9 - ds.length) * 10 ^ ds.length := by
      rw [← Nat.pow_add, Nat.sub_add_cancel short]
    rw [split, ← Nat.mul_assoc, Nat.mul_div_cancel _ (Nat.pow_pos (by decide))]
  · have nine : (ds.take 9).length = 9 := by
      rw [List.length_take]
      omega
    have size : ds.length = (ds.drop 9).length + 9 := by
      rw [List.length_drop]
      omega
    have rest : valueOf (ds.drop 9) < 10 ^ (ds.drop 9).length :=
      valueOf_lt (List.all_eq_true.2 fun c hc =>
        List.all_eq_true.1 digits c (List.mem_of_mem_drop hc))
    have value : valueOf ds =
        valueOf (ds.take 9) * 10 ^ (ds.drop 9).length + valueOf (ds.drop 9) := by
      rw [← valueOf_append, List.take_append_drop]
    rw [nine, Nat.sub_self, Nat.pow_zero, Nat.mul_one, size, Nat.pow_add,
      Nat.mul_div_mul_right _ _ (Nat.pow_pos (by decide)), value, Nat.mul_comm (valueOf _),
      Nat.mul_add_div (Nat.pow_pos (by decide)), Nat.div_eq_of_lt rest, Nat.add_zero]

end Text

namespace Calendar
open Text

inductive DateText (long short year month day : Nat) : List Char → Prop
  | parts {y m d : List Char} (written : Numeral long 4 year y ∧ Numeral short 2 month m ∧
      Numeral short 2 day d) : DateText long short year month day (y ++ '-' :: (m ++ '-' :: d))

inductive ClockText (short hour minute second : Nat) : List Char → Prop
  | parts {h m s : List Char} (written : Numeral short 2 hour h ∧ Numeral short 2 minute m ∧
      Numeral short 2 second s) : ClockText short hour minute second (h ++ ':' :: (m ++ ':' :: s))

inductive FractionText : List Char → List Char → Prop
  | none : FractionText [] []
  | point {ds : List Char} (nonempty : ds ≠ []) (digits : ds.all isDigit = true) :
    FractionText ds ('.' :: ds)

inductive OffsetText : Int → List Char → Prop
  | utc {c : Char} (mark : c = 'Z' ∨ c = 'z') : OffsetText 0 [c]
  | ahead {hours minutes : Nat} {h m : List Char} (bounds : hours ≤ 23 ∧ minutes ≤ 59)
    (written : Numeral 2 2 hours h ∧ Numeral 2 2 minutes m) :
    OffsetText (hours * 3600 + minutes * 60) ('+' :: (h ++ ':' :: m))
  | behind {c : Char} (sign : c = '-' ∨ c = '−') {hours minutes : Nat} {h m : List Char}
    (bounds : hours ≤ 23 ∧ minutes ≤ 59)
    (written : Numeral 2 2 hours h ∧ Numeral 2 2 minutes m) :
    OffsetText (-(hours * 3600 + minutes * 60)) (c :: (h ++ ':' :: m))

section
variable {long short year month day hour minute second : Nat} {a b f z : List Char}

theorem DateText.loose (text : DateText 4 2 year month day a) : DateText 1 1 year month day a := by
  obtain ⟨written⟩ := text
  exact .parts ⟨written.1.loose (by decide), written.2.1.loose (by decide),
    written.2.2.loose (by decide)⟩

theorem ClockText.loose (text : ClockText 2 hour minute second b) :
    ClockText 1 hour minute second b := by
  obtain ⟨written⟩ := text
  exact .parts ⟨written.1.loose (by decide), written.2.1.loose (by decide),
    written.2.2.loose (by decide)⟩

theorem exists_dateText (date : Date) (short : year ≤ 9999) :
    ∃ a, DateText 4 2 year date.month date.day a := by
  have month := date.month_valid
  have day := date.day_valid
  have most := monthLength_bounds date.year date.month
  exact ⟨_, .parts ⟨numeral_padded (by decide) (by omega), numeral_padded (by decide) (by omega),
    numeral_padded (by decide) (by omega)⟩⟩

theorem exists_clockText (bounds : hour ≤ 23 ∧ minute ≤ 59 ∧ second ≤ 59) :
    ∃ b, ClockText 2 hour minute second b :=
  ⟨_, .parts ⟨numeral_padded (by decide) (by omega), numeral_padded (by decide) (by omega),
    numeral_padded (by decide) (by omega)⟩⟩

theorem DateText.tight (text : DateText long short year month day a) (pos : 0 < long ∧ 0 < short) :
    Tight a := by
  obtain @⟨y, m, d, written⟩ := text
  have ends := (written.1.tight pos.1).append ('-' :: (m ++ ['-'])) (written.2.2.tight pos.2)
  simpa using ends

theorem ClockText.tight (text : ClockText short hour minute second a) (pos : 0 < short) :
    Tight a := by
  obtain @⟨h, m, s, written⟩ := text
  have ends := (written.1.tight pos).append (':' :: (m ++ [':'])) (written.2.2.tight pos)
  simpa using ends

theorem OffsetText.tight {seconds : Int} (text : OffsetText seconds z) : Tight z := by
  have single : ∀ {c : Char}, isBlank c = false → Tight [c] := fun solid =>
    .of_solid (List.cons_ne_nil _ _) (by simpa using solid)
  cases text with
  | utc mark => rcases mark with rfl | rfl <;> exact single (by decide)
  | @ahead _ _ h m _ written =>
    have plus : Tight ['+'] := single (by decide)
    have ends := plus.append (h ++ [':']) (written.2.tight (by decide))
    simpa using ends
  | @behind c sign _ _ h m _ written =>
    have minus : Tight [c] := by rcases sign with rfl | rfl <;> exact single (by decide)
    have ends := minus.append (h ++ [':']) (written.2.tight (by decide))
    simpa using ends

end

/-! ### What the readers make of such texts -/

theorem number_numeral {least most n : Nat} {s t : List Char} (numeral : Numeral least most n s)
    (stop : Stops t) : number least most (s ++ t) = some (n, t) := by
  rw [number_append numeral.digits numeral.size stop, numeral.value]

theorem twoDigits_numeral {short n : Nat} {s t : List Char} (numeral : Numeral short 2 n s)
    (pos : 0 < short) (stop : Stops t) : twoDigits (s ++ t) = some (n, t) := by
  have size : 1 ≤ s.length ∧ s.length ≤ 2 := ⟨Nat.le_trans pos numeral.size.1, numeral.size.2⟩
  rw [twoDigits, trimLeft_append_of_solid (numeral.nonempty pos) numeral.solid,
    number_append numeral.digits size stop, numeral.value]

theorem year_numeral {long n : Nat} {s t : List Char} (numeral : Numeral long 4 n s)
    (pos : 0 < long) (stop : Stops t) : year (s ++ t) = some ((n : Int), t) := by
  have size : 1 ≤ s.length ∧ s.length ≤ 4 := ⟨Nat.le_trans pos numeral.size.1, numeral.size.2⟩
  rw [year_append numeral.digits size stop, numeral.value]

theorem stops_dash (t : List Char) : Stops ('-' :: t) := stops_cons (by decide) t

theorem stops_colon (t : List Char) : Stops (':' :: t) := stops_cons (by decide) t

section
variable {long short year month day hour minute second : Nat} {a b f z t : List Char}

theorem ofParts?_of_dateText {date : Date} (text : DateText long short year date.month date.day a)
    (same : date.year = year) : Date.ofParts? year date.month date.day = some date := by
  obtain ⟨written⟩ := text
  have small := written.1.lt
  refine Date.ofParts?_eq_some_iff.2 ⟨same.symm, rfl, rfl, ?_⟩
  unfold Date.Known Date.leastYear Date.greatestYear
  omega

theorem looseDate_dateText (text : DateText long short year month day a)
    (pos : 0 < long ∧ 0 < short) (stop : Stops t) :
    looseDate (a ++ t) = (Date.ofParts? year month day).map fun date => (date, t) := by
  obtain @⟨y, m, d, written⟩ := text
  simp only [looseDate, List.append_assoc, List.cons_append, Option.bind_eq_bind,
    year_numeral written.1 pos.1 (stops_dash _), twoDigits_numeral written.2.1 pos.2 (stops_dash _),
    twoDigits_numeral written.2.2 pos.2 stop, mark_cons, Option.bind_some, beq_self_eq_true]
  cases Date.ofParts? (year : Int) month day <;> rfl

theorem ofLocal?_of_texts {date : Date} {m : Moment}
    (dated : DateText long short year month day a) (pos : 0 < long ∧ 0 < short)
    (valid : Date.ofParts? year month day = some date)
    (timed : ClockText short hour minute second b)
    (made : Moment.ofParts? date hour minute second 0 = some m) :
    ofLocal? (a ++ ' ' :: b) = some m := by
  obtain @⟨h, n, s, written⟩ := timed
  have blank : Stops (' ' :: (h ++ ':' :: (n ++ ':' :: s))) := stops_cons (by decide) _
  have last := twoDigits_numeral written.2.2 pos.2 stops_nil
  rw [List.append_nil] at last
  simp [ofLocal?, looseDate_dateText dated pos blank, valid, twoDigits_blank,
    twoDigits_numeral written.1 pos.2 (stops_colon _),
    twoDigits_numeral written.2.1 pos.2 (stops_colon _), mark_cons, last, made]

theorem ofDay?_of_text {date : Date} (dated : DateText long short year month day a)
    (pos : 0 < long ∧ 0 < short) (valid : Date.ofParts? year month day = some date) :
    ofDay? a = some (Moment.midnight date) := by
  have read := looseDate_dateText dated pos stops_nil
  rw [List.append_nil] at read
  simp [ofDay?, read, valid]

theorem OffsetText.stops {seconds : Int} (text : OffsetText seconds z) :
    Stops z ∧ ∀ t, z ≠ '.' :: t := by
  cases text with
  | utc mark => rcases mark with rfl | rfl <;> exact ⟨stops_cons (by decide) _, by simp⟩
  | ahead => exact ⟨stops_cons (by decide) _, by simp⟩
  | behind sign => rcases sign with rfl | rfl <;> exact ⟨stops_cons (by decide) _, by simp⟩

theorem OffsetText.bounds {seconds : Int} (text : OffsetText seconds z) :
    -86400 < seconds ∧ seconds < 86400 := by
  cases text <;> omega

theorem offset_offsetText {seconds : Int} (text : OffsetText seconds z) :
    offset z = some (seconds, []) := by
  cases text with
  | utc mark => simp [offset, mark]
  | ahead bounds written =>
    have last := number_numeral written.2 stops_nil
    rw [List.append_nil] at last
    simp [offset, number_numeral written.1 (stops_colon _), mark_cons, last, bounds.2]
  | behind sign bounds written =>
    have last := number_numeral written.2 stops_nil
    rw [List.append_nil] at last
    rcases sign with rfl | rfl <;>
      simp [offset, number_numeral written.1 (stops_colon _), mark_cons, last, bounds.2]

theorem fraction_fractionText {ds : List Char} (text : FractionText ds f) (stop : Stops z)
    (other : ∀ t, z ≠ '.' :: t) :
    fraction (f ++ z) = some (valueOf ds * 10 ^ 9 / 10 ^ ds.length, z) := by
  cases text with
  | none =>
    unfold fraction
    split
    · next t same => exact absurd same (other t)
    · simp
  | point nonempty digits =>
    rw [← nanos_of_digits digits]
    simp [fraction, splitDigits_append_of_stops digits stop, nonempty]

theorem FractionText.stops {ds : List Char} (text : FractionText ds f) (stop : Stops z) :
    Stops (f ++ z) := by
  cases text with
  | none => exact stop
  | point => exact stops_cons (by decide) _

theorem bind_of_read {α β : Type} {x : Option α} {r : α} (read : x = some r) (f : α → Option β) :
    (x >>= f) = f r := by
  rw [read]
  rfl

theorem bind_of_unread {α β : Type} {x : Option α} (unread : x = none) (f : α → Option β) :
    (x >>= f) = none := by
  rw [unread]
  rfl

theorem ofInternet?_of_texts {date : Date} {m : Moment} {join : Char} {ds : List Char}
    {seconds : Int} (dated : DateText 4 2 year month day a)
    (joined : join = 'T' ∨ join = 't' ∨ join = ' ')
    (timed : ClockText 2 hour minute second b) (fractioned : FractionText ds f)
    (shifted : OffsetText seconds z) (valid : Date.ofParts? year month day = some date)
    (made :
      Moment.ofParts? date hour minute second (valueOf ds * 10 ^ 9 / 10 ^ ds.length) = some m) :
    ofInternet? (a ++ join :: (b ++ (f ++ z))) = some (m.back seconds shifted.bounds) := by
  obtain @⟨y, n, d, dated⟩ := dated
  obtain @⟨h, n', s, timed⟩ := timed
  have stop := shifted.stops
  have joint : ∀ t, Stops (join :: t) := by
    rcases joined with rfl | rfl | rfl <;> exact stops_cons (by decide)
  have good : (join == 'T' || join == 't' || join == ' ') = true := by
    simpa [or_assoc] using joined
  have dash : ∀ t, mark (· == '-') ('-' :: t) = some ((), t) := mark_cons (by decide)
  have colon : ∀ t, mark (· == ':') (':' :: t) = some ((), t) := mark_cons (by decide)
  simp only [List.append_assoc, List.cons_append]
  -- part after part is read off the front, and what each one leaves is the rest of the text
  refine (bind_of_read (number_numeral dated.1 (stops_dash _)) _).trans ?_
  refine (bind_of_read (dash _) _).trans ?_
  refine (bind_of_read (number_numeral dated.2.1 (stops_dash _)) _).trans ?_
  refine (bind_of_read (dash _) _).trans ?_
  refine (bind_of_read (number_numeral dated.2.2 (joint _)) _).trans ?_
  refine (bind_of_read (mark_cons good _) _).trans ?_
  refine (bind_of_read (number_numeral timed.1 (stops_colon _)) _).trans ?_
  refine (bind_of_read (colon _) _).trans ?_
  refine (bind_of_read (number_numeral timed.2.1 (stops_colon _)) _).trans ?_
  refine (bind_of_read (colon _) _).trans ?_
  refine (bind_of_read (number_numeral timed.2.2 (fractioned.stops stop.1)) _).trans ?_
  refine (bind_of_read (fraction_fractionText fractioned stop.1 stop.2) _).trans ?_
  refine (bind_of_read (offset_offsetText shifted) _).trans ?_
  refine (bind_of_read valid _).trans ?_
  refine (bind_of_read made _).trans ?_
  exact dif_pos ⟨rfl, shifted.bounds⟩

end

end Calendar

end FieldMapping
