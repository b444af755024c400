import FieldMapping.Calendar.Layouts
import FieldMapping.Proofs.Number.Numerals
import Mathlib.Data.List.Induction
import Mathlib.Tactic.Ring

/-! Moments that were read, printed and read again. Whatever the layout, a moment that
was read has a year that can be written and its leap second at the end of a minute. The
printed text of such a moment is read back, without the fraction of its second. -/

namespace FieldMapping

namespace Text

theorem valueOf_append (s t : List Char) :
    valueOf (s ++ t) = valueOf s * 10 ^ t.length + valueOf t := by
  induction t using List.reverseRecOn with
  | nil => simp
  | append_singleton t c ih =>
    rw [← List.append_assoc, valueOf_append_singleton, valueOf_append_singleton, ih,
      List.length_append, List.length_singleton, Nat.pow_succ]
    ring

theorem valueOf_replicate_zero (k : Nat) : valueOf (List.replicate k '0') = 0 := by
  induction k with
  | zero => rfl
  | succ k ih =>
    rw [List.replicate_succ', valueOf_append_singleton, ih]
    rfl

theorem valueOf_lt {s : List Char} (ds : s.all isDigit = true) : valueOf s < 10 ^ s.length := by
  induction s using List.reverseRecOn with
  | nil => decide
  | append_singleton s c ih =>
    obtain ⟨before, last⟩ : s.all isDigit = true ∧ isDigit c = true := by simpa using ds
    have rest := ih before
    have small : digitValue c < 10 := by
      have bounds := isDigit_bounds last
      have zero : '0'.toNat = 48 := rfl
      unfold digitValue
      omega
    rw [valueOf_append_singleton, List.length_append, List.length_singleton, Nat.pow_succ]
    omega

theorem valueOf_padded (width n : Nat) : valueOf (padded width n) = n := by
  rw [padded, valueOf_append, valueOf_replicate_zero, valueOf_digits, Nat.zero_mul, Nat.zero_add]

theorem all_isDigit_padded (width n : Nat) : (padded width n).all isDigit = true := by
  have zero : isDigit '0' = true := by decide
  simp [padded, all_isDigit_digits, zero]

theorem padded_ne_nil (width n : Nat) : padded width n ≠ [] := by
  simp [padded, digits_ne_nil]

theorem solid_padded (width n : Nat) : ∀ c ∈ padded width n, isBlank c = false :=
  fun c hc => isBlank_of_isDigit (List.all_eq_true.1 (all_isDigit_padded width n) c hc)

theorem length_padded {width n : Nat} (pos : 0 < width) (small : n < 10 ^ width) :
    (padded width n).length = width := by
  have short := length_digits_le pos small
  rw [padded, List.length_append, List.length_replicate]
  omega

def Stops (t : List Char) : Prop := ∀ c ∈ t.head?, isDigit c = false

theorem stops_nil : Stops [] := nofun

theorem stops_cons {c : Char} (other : isDigit c = false) (t : List Char) : Stops (c :: t) := by
  intro d same
  cases same
  exact other

theorem splitDigits_append_of_stops {s t : List Char} (ds : s.all isDigit = true) (stop : Stops t) :
    splitDigits (s ++ t) = (s, t) := by
  have each := List.all_eq_true.1 ds
  have none : t.takeWhile isDigit = [] ∧ t.dropWhile isDigit = t := by
    cases t with
    | nil => exact ⟨rfl, rfl⟩
    | cons c t => simp [stop c rfl]
  rw [splitDigits, List.takeWhile_append_of_pos each, List.dropWhile_append_of_pos each, none.1,
    none.2, List.append_nil]

end Text

namespace Calendar
open Text

theorem mark_cons {p : Char → Bool} {c : Char} (good : p c = true) (s : List Char) :
    mark p (c :: s) = some ((), s) := if_pos good

theorem number_append {least most : Nat} {s t : List Char} (ds : s.all isDigit = true)
    (size : least ≤ s.length ∧ s.length ≤ most) (stop : Stops t) :
    number least most (s ++ t) = some (valueOf s, t) := by
  unfold number
  rw [splitDigits_append_of_stops ds stop, List.take_of_length_le size.2]
  simp [Nat.not_lt.2 size.1]

theorem number_lt {least most n : Nat} {s t : List Char}
    (read : number least most s = some (n, t)) : n < 10 ^ most := by
  unfold number at read
  dsimp only at read
  split at read <;> cases read
  have ds : ((splitDigits s).1.take most).all isDigit = true :=
    List.all_eq_true.2 fun c hc => List.mem_takeWhile_imp (List.mem_of_mem_take hc)
  have size : ((splitDigits s).1.take most).length ≤ most := List.length_take_le _ _
  exact Nat.lt_of_lt_of_le (valueOf_lt ds) (Nat.pow_le_pow_right (by decide) size)

theorem fraction_lt {s t : List Char} {n : Nat} (read : fraction s = some (n, t)) :
    n < 1000000000 := by
  unfold fraction at read
  split at read
  · next r =>
    dsimp only at read
    split at read <;> cases read
    have ds : ((splitDigits r).1.take 9).all isDigit = true :=
      List.all_eq_true.2 fun c hc => List.mem_takeWhile_imp (List.mem_of_mem_take hc)
    have size : ((splitDigits r).1.take 9).length ≤ 9 := List.length_take_le _ _
    generalize (splitDigits r).1.take 9 = kept at *
    calc valueOf kept * 10 ^ (9 - kept.length)
        < 10 ^ kept.length * 10 ^ (9 - kept.length) :=
          Nat.mul_lt_mul_of_pos_right (valueOf_lt ds) (Nat.pow_pos (by decide))
      _ = 1000000000 := by rw [← Nat.pow_add, Nat.add_sub_cancel' size]
  · cases read
    decide

theorem twoDigits_padded {n : Nat} (small : n < 100) {t : List Char} (stop : Stops t) :
    twoDigits (padded 2 n ++ t) = some (n, t) := by
  have size : (padded 2 n).length = 2 := length_padded (by decide) small
  rw [twoDigits, trimLeft_append_of_solid (padded_ne_nil 2 n) (solid_padded 2 n),
    number_append (all_isDigit_padded 2 n) (by omega) stop, valueOf_padded]

theorem twoDigits_blank (s : List Char) : twoDigits (' ' :: s) = twoDigits s := by
  have blank : isBlank ' ' = true := by decide
  simp [twoDigits, trimLeft, blank]

theorem year_append {s t : List Char} (ds : s.all isDigit = true)
    (size : 1 ≤ s.length ∧ s.length ≤ 4) (stop : Stops t) :
    year (s ++ t) = some ((valueOf s : Int), t) := by
  have solid : ∀ c ∈ s, isBlank c = false :=
    fun c hc => isBlank_of_isDigit (List.all_eq_true.1 ds c hc)
  have nonempty : s ≠ [] := List.ne_nil_of_length_pos size.1
  have read := number_append ds size stop
  cases s with
  | nil => exact absurd rfl nonempty
  | cons c s =>
    have digit : isDigit c = true := List.all_eq_true.1 ds c List.mem_cons_self
    unfold year
    rw [trimLeft_append_of_solid nonempty solid]
    split
    · next minus =>
      cases minus
      exact absurd digit (by decide)
    · next plus =>
      cases plus
      exact absurd digit (by decide)
    · rw [read]
      rfl

theorem year_minus (s : List Char) :
    year ('-' :: s) = (number 1 s.length s).map fun (n, t) => (-(n : Int), t) := by
  have solid : isBlank '-' = false := by decide
  simp [year, trimLeft, solid]

theorem year_plus (s : List Char) :
    year ('+' :: s) = (number 1 s.length s).map fun (n, t) => ((n : Int), t) := by
  have solid : isBlank '+' = false := by decide
  simp [year, trimLeft, solid]

theorem year_yearText (y : Int) {t : List Char} (stop : Stops t) :
    year (yearText y ++ t) = some (y, t) := by
  unfold yearText
  split
  · next small =>
    have size : (padded 4 y.toNat).length = 4 := length_padded (by decide) (by omega)
    rw [year_append (all_isDigit_padded 4 y.toNat) (by omega) stop, valueOf_padded,
      Int.toNat_of_nonneg small.1]
  · have long : 0 < (padded 4 y.natAbs).length := List.length_pos_iff.2 (padded_ne_nil 4 y.natAbs)
    have read : number 1 (padded 4 y.natAbs ++ t).length (padded 4 y.natAbs ++ t) =
        some (y.natAbs, t) := by
      rw [number_append (all_isDigit_padded 4 y.natAbs) ⟨long, by simp⟩ stop, valueOf_padded]
    by_cases negative : y < 0
    · have value : -(y.natAbs : Int) = y := by omega
      rw [if_pos negative, List.cons_append, year_minus, read]
      simp only [Option.map_some, value]
    · have value : (y.natAbs : Int) = y := by omega
      rw [if_neg negative, List.cons_append, year_plus, read]
      simp only [Option.map_some, value]

theorem solid_yearText (y : Int) : yearText y ≠ [] ∧ ∀ c ∈ yearText y, isBlank c = false := by
  unfold yearText
  split
  · exact ⟨padded_ne_nil _ _, solid_padded _ _⟩
  · refine ⟨List.cons_ne_nil _ _, List.forall_mem_cons.2 ⟨?_, solid_padded _ _⟩⟩
    split <;> decide

def Date.Known (d : Date) : Prop := leastYear ≤ d.year ∧ d.year ≤ greatestYear

theorem Date.ofParts?_eq_some_iff {y : Int} {month day : Nat} {d : Date} :
    ofParts? y month day = some d ↔ y = d.year ∧ month = d.month ∧ day = d.day ∧ d.Known := by
  constructor
  · intro made
    unfold ofParts? at made
    split at made
    · split at made <;> cases made
      next known => exact ⟨rfl, rfl, rfl, known⟩
    · cases made
  · rintro ⟨rfl, rfl, rfl, known⟩
    unfold ofParts?
    rw [dif_pos ⟨d.month_valid, d.day_valid⟩]
    exact if_pos known

theorem looseDate_text {d : Date} (known : d.Known) {t : List Char} (stop : Stops t) :
    looseDate (d.text ++ t) = some (d, t) := by
  have month : d.month < 100 := by
    have := d.month_valid
    omega
  have day : d.day < 100 := by
    have := d.day_valid
    have := monthLength_bounds d.year d.month
    omega
  have bar : ∀ r, Stops ('-' :: r) := stops_cons (by decide)
  have made : Date.ofParts? d.year d.month d.day = some d :=
    Date.ofParts?_eq_some_iff.2 ⟨rfl, rfl, rfl, known⟩
  simp [looseDate, Date.text, year_yearText, twoDigits_padded month, twoDigits_padded day stop,
    mark_cons, bar, made]

theorem Moment.ofParts?_eq_some_iff {date : Date} {hour minute second fraction : Nat}
    {m : Moment} : ofParts? date hour minute second fraction = some m ↔
      hour ≤ 23 ∧ minute ≤ 59 ∧ date = m.date ∧
        (second ≤ 59 ∧ hour * 3600 + minute * 60 + second = m.second ∧ fraction = m.nano ∨
          second = 60 ∧ hour * 3600 + minute * 60 + 59 = m.second ∧
            1000000000 + fraction = m.nano) := by
  obtain ⟨date', second', nano', inDay, inSecond⟩ := m
  unfold ofParts?
  by_cases same : date = date'
  · by_cases leap : second = 60 <;> simp only [same, leap, if_true, if_false] <;> split <;> simp <;>
      omega
  · by_cases leap : second = 60 <;> simp only [leap, if_true, if_false] <;> split <;> simp [same]

namespace Moment

def whole (m : Moment) : Moment :=
  { m with
    nano := m.nano / 1000000000 * 1000000000
    nano_valid := by have := m.nano_valid; omega }

theorem whole_eq_iff {m : Moment} : m.whole = m ↔ m.nano % 1000000000 = 0 := by
  obtain ⟨date, second, nano, _, _⟩ := m
  simp only [whole, mk.injEq, true_and]
  omega

theorem render_whole (m : Moment) : m.whole.render = m.render := by
  simp [render, whole]

structure Printable (m : Moment) : Prop where
  known : m.date.Known
  leap : 1000000000 ≤ m.nano → m.second % 60 = 59

theorem Printable.ofParts?_whole {m : Moment} (printable : m.Printable) :
    ofParts? m.date (m.second / 3600) (m.second / 60 % 60)
      (m.second % 60 + m.nano / 1000000000) 0 = some m.whole := by
  have day := m.second_valid
  have short := m.nano_valid
  have last := printable.leap
  refine ofParts?_eq_some_iff.2 ⟨by omega, by omega, rfl, ?_⟩
  simp only [whole]
  omega

theorem Printable.ofLocal?_render {m : Moment} (printable : m.Printable) :
    ofLocal? m.render.toList = some m.whole := by
  have hours : m.second / 3600 < 100 := by
    have := m.second_valid
    omega
  have minutes : m.second / 60 % 60 < 100 := by omega
  have seconds : m.second % 60 + m.nano / 1000000000 < 100 := by
    have := m.nano_valid
    omega
  have blank : ∀ r, Stops (' ' :: r) := stops_cons (by decide)
  have colon : ∀ r, Stops (':' :: r) := stops_cons (by decide)
  have last := twoDigits_padded seconds stops_nil
  rw [List.append_nil] at last
  simp [ofLocal?, render, looseDate_text printable.known, blank, colon, mark_cons, twoDigits_blank,
    twoDigits_padded hours, twoDigits_padded minutes, last, printable.ofParts?_whole]

theorem trim_render (m : Moment) : trim m.render.toList = m.render.toList := by
  have ends := trim_of_solid_ends (solid_yearText m.date.year)
    ⟨padded_ne_nil 2 (m.second % 60 + m.nano / 1000000000), solid_padded _ _⟩
  have split : m.render.toList = yearText m.date.year ++
      (('-' :: padded 2 m.date.month ++ '-' :: padded 2 m.date.day ++
          ' ' :: padded 2 (m.second / 3600) ++ ':' :: padded 2 (m.second / 60 % 60) ++ [':']) ++
        padded 2 (m.second % 60 + m.nano / 1000000000)) := by
    simp [render, Date.text]
  rw [split, ends]

theorem Printable.ofText?_render {m : Moment} (printable : m.Printable) :
    ofText? m.render = some m.whole := by
  rw [ofText?, trim_render, printable.ofLocal?_render, Option.some_or]

theorem printable_of_ofParts? {date : Date} (known : date.Known)
    {hour minute second fraction : Nat} (short : fraction < 1000000000) {m : Moment}
    (made : ofParts? date hour minute second fraction = some m) : m.Printable := by
  obtain ⟨-, -, rfl, seconds⟩ := ofParts?_eq_some_iff.1 made
  exact ⟨known, by omega⟩

theorem printable_midnight {d : Date} (known : d.Known) : (midnight d).Printable :=
  ⟨known, fun leap => absurd leap (by simp [midnight])⟩

theorem Printable.back {m : Moment} (printable : m.Printable)
    (near : 0 ≤ m.date.year ∧ m.date.year < 10000) {offset : Int}
    (bound : -86400 < offset ∧ offset < 86400) (minutes : offset % 60 = 0) :
    (m.back offset bound).Printable := by
  have leap := printable.leap
  have before : m.date.previous.Known := by
    unfold Date.previous Date.Known Date.leastYear Date.greatestYear
    repeat' split
    all_goals dsimp only; omega
  have after : m.date.next.Known := by
    unfold Date.next Date.Known Date.leastYear Date.greatestYear
    repeat' split
    all_goals dsimp only; omega
  unfold Moment.back
  dsimp only
  split
  · exact ⟨before, by dsimp only; omega⟩
  · split
    · exact ⟨after, by dsimp only; omega⟩
    · exact ⟨printable.known, by dsimp only; omega⟩

end Moment

theorem forall_of_bind {α β : Type} {x : Option α} {f : α → Option β} {P : β → Prop}
    (each : ∀ a, x = some a → ∀ b, f a = some b → P b) : ∀ b, (x >>= f) = some b → P b := by
  intro b read
  obtain ⟨a, taken, rest⟩ := Option.bind_eq_some_iff.1 read
  exact each a taken b rest

theorem known_of_looseDate {s : List Char} : ∀ p, looseDate s = some p → p.1.Known := by
  refine forall_of_bind fun ⟨_, _⟩ _ => forall_of_bind fun _ _ => forall_of_bind fun ⟨_, _⟩ _ =>
    forall_of_bind fun _ _ => forall_of_bind fun ⟨_, _⟩ _ => forall_of_bind fun date made => ?_
  rintro p ⟨⟩
  exact (Date.ofParts?_eq_some_iff.1 made).2.2.2

theorem offset_minutes {s : List Char} : ∀ p, offset s = some p → p.1 % 60 = 0 := by
  unfold offset
  split
  · exact nofun
  · split
    · rintro p ⟨⟩
      rfl
    · split
      · refine forall_of_bind fun ⟨hours, _⟩ _ => forall_of_bind fun _ _ =>
          forall_of_bind fun ⟨minutes, _⟩ _ => ?_
        intro p read
        dsimp only at read
        split at read <;> cases read
        dsimp only
        split <;> omega
      · exact nofun

theorem printable_of_ofLocal? {s : List Char} : ∀ m, ofLocal? s = some m → m.Printable := by
  refine forall_of_bind fun ⟨date, _⟩ dated => forall_of_bind fun ⟨hour, _⟩ _ =>
    forall_of_bind fun _ _ => forall_of_bind fun ⟨minute, _⟩ _ => forall_of_bind fun _ _ =>
    forall_of_bind fun ⟨second, _⟩ _ => ?_
  intro m made
  dsimp only at made
  split at made
  · exact Moment.printable_of_ofParts? (known_of_looseDate _ dated) (by decide) made
  · cases made

theorem printable_of_ofDay? {s : List Char} : ∀ m, ofDay? s = some m → m.Printable := by
  refine forall_of_bind fun ⟨date, _⟩ dated => ?_
  intro m made
  dsimp only at made
  split at made <;> cases made
  exact Moment.printable_midnight (known_of_looseDate _ dated)

theorem printable_of_ofInternet? {s : List Char} : ∀ m, ofInternet? s = some m → m.Printable := by
  refine forall_of_bind fun ⟨y, _⟩ years => forall_of_bind fun _ _ =>
    forall_of_bind fun ⟨month, _⟩ _ => forall_of_bind fun _ _ =>
    forall_of_bind fun ⟨day, _⟩ _ => forall_of_bind fun _ _ =>
    forall_of_bind fun ⟨hour, _⟩ _ => forall_of_bind fun _ _ =>
    forall_of_bind fun ⟨minute, _⟩ _ => forall_of_bind fun _ _ =>
    forall_of_bind fun ⟨second, _⟩ _ => forall_of_bind fun ⟨nano, _⟩ fractions =>
    forall_of_bind fun ⟨seconds, _⟩ offsets => forall_of_bind fun date dated =>
    forall_of_bind fun moment timed => ?_
  intro m made
  split at made
  · next inside =>
    cases made
    have year := number_lt years
    obtain ⟨same, -, -, known⟩ := Date.ofParts?_eq_some_iff.1 dated
    obtain ⟨-, -, rfl, -⟩ := Moment.ofParts?_eq_some_iff.1 timed
    have printable := Moment.printable_of_ofParts? known (fraction_lt fractions) timed
    exact printable.back (by omega) inside.2 (offset_minutes _ offsets)
  · cases made

theorem Moment.printable_of_ofText? {s : String} {m : Moment} (read : ofText? s = some m) :
    m.Printable := by
  rw [ofText?, Option.or_eq_some_iff, Option.or_eq_some_iff] at read
  rcases read with spaced | ⟨-, internet | ⟨-, day⟩⟩
  · exact printable_of_ofLocal? m spaced
  · exact printable_of_ofInternet? m internet
  · exact printable_of_ofDay? m day

end Calendar

end FieldMapping
