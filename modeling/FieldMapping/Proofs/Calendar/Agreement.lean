import FieldMapping.Proofs.Calendar.Written
import Mathlib.Data.List.Pairwise

/-! The layouts of moments never disagree. A text in the form with an offset starts with a
day that the other two layouts read as well, but there it goes on where they have to end,
so no text has two layouts and the order in which they are tried does not matter. What is
read is the day and the time that are written, less the offset, and a day that its month
does not have is read in no layout. -/

namespace FieldMapping.Calendar
open Text

theorem mark_eq_some_iff {p : Char → Bool} {s t : List Char} {u : Unit} :
    mark p s = some (u, t) ↔ ∃ c, p c = true ∧ s = c :: t := by
  cases s with
  | nil => simp [mark]
  | cons c s =>
    by_cases good : p c = true
    · simp [mark, good]
    · simp [mark, good]

section
variable {least most n : Nat} {s t : List Char}

theorem number_of_fewer {fewer : Nat} (read : number least most s = some (n, t))
    (fewer_le : fewer ≤ least) : number fewer most s = some (n, t) := by
  unfold number at read ⊢
  dsimp only at read ⊢
  split at read
  · cases read
  · next enough =>
    rw [if_neg fun few => enough (Nat.lt_of_lt_of_le few fewer_le)]
    exact read

theorem starts_of_number (read : number least most s = some (n, t)) (pos : 0 < least) :
    ∃ c r, s = c :: r ∧ isDigit c = true := by
  unfold number at read
  dsimp only at read
  split at read
  · cases read
  · next enough =>
    cases s with
    | nil =>
      exact absurd enough (by simpa [splitDigits] using Nat.ne_of_gt pos)
    | cons c r =>
      refine ⟨c, r, rfl, ?_⟩
      by_contra other
      refine enough ?_
      simpa [splitDigits, other] using pos

theorem trimLeft_of_number (read : number least most s = some (n, t)) (pos : 0 < least) :
    trimLeft s = s := by
  obtain ⟨c, r, rfl, digit⟩ := starts_of_number read pos
  simp [trimLeft, isBlank_of_isDigit digit]

theorem twoDigits_of_number (read : number 2 2 s = some (n, t)) : twoDigits s = some (n, t) := by
  rw [twoDigits, trimLeft_of_number read (by decide)]
  exact number_of_fewer read (by decide)

theorem year_of_number (read : number 4 4 s = some (n, t)) : year s = some ((n : Int), t) := by
  have loose := number_of_fewer read (show 1 ≤ 4 by decide)
  have whole := trimLeft_of_number read (by decide)
  obtain ⟨c, r, rfl, digit⟩ := starts_of_number read (by decide)
  unfold year
  rw [whole]
  split
  · next minus =>
    cases minus
    exact absurd digit (by decide)
  · next plus =>
    cases plus
    exact absurd digit (by decide)
  · rw [loose]
    rfl

end

section
variable {s : List Char} {m : Moment}

theorem day_of_ofInternet? : ∀ m, ofInternet? s = some m →
    ∃ date join hour minute second t₁ t₂ t₃ t₄, looseDate s = some (date, join :: t₁) ∧
      (join == 'T' || join == 't' || join == ' ') = true ∧
      number 2 2 t₁ = some (hour, ':' :: t₂) ∧ number 2 2 t₂ = some (minute, ':' :: t₃) ∧
      number 2 2 t₃ = some (second, t₄) ∧ t₄ ≠ [] := by
  refine forall_of_bind fun ⟨y, s₁⟩ years => forall_of_bind fun ⟨_, s₂⟩ bar =>
    forall_of_bind fun ⟨month, s₃⟩ months => forall_of_bind fun ⟨_, s₄⟩ bar' =>
    forall_of_bind fun ⟨day, s₅⟩ days => forall_of_bind fun ⟨_, t₁⟩ joined =>
    forall_of_bind fun ⟨hour, s₆⟩ hours => forall_of_bind fun ⟨_, t₂⟩ colon =>
    forall_of_bind fun ⟨minute, s₇⟩ minutes => forall_of_bind fun ⟨_, t₃⟩ colon' =>
    forall_of_bind fun ⟨second, t₄⟩ seconds => forall_of_bind fun ⟨nano, s₈⟩ fractions =>
    forall_of_bind fun ⟨_, _⟩ offsets => forall_of_bind fun date dated =>
    forall_of_bind fun moment timed m _ => ?_
  obtain ⟨join, good, rfl⟩ := mark_eq_some_iff.1 joined
  have loose : looseDate s = some (date, join :: t₁) := by
    refine (bind_of_read (year_of_number years) _).trans ?_
    refine (bind_of_read bar _).trans ?_
    refine (bind_of_read (twoDigits_of_number months) _).trans ?_
    refine (bind_of_read bar' _).trans ?_
    refine (bind_of_read (twoDigits_of_number days) _).trans ?_
    exact bind_of_read dated _
  have more : t₄ ≠ [] := by
    rintro rfl
    cases fractions
    cases offsets
  obtain ⟨c, same, rfl⟩ := mark_eq_some_iff.1 colon
  obtain ⟨c', same', rfl⟩ := mark_eq_some_iff.1 colon'
  cases eq_of_beq same
  cases eq_of_beq same'
  exact ⟨date, join, hour, minute, second, t₁, t₂, t₃, t₄, loose, good, hours, minutes, seconds,
    more⟩

theorem twoDigits_letter {c : Char} (letter : c = 'T' ∨ c = 't') (s : List Char) :
    twoDigits (c :: s) = none := by
  rcases letter with rfl | rfl <;> rfl

theorem ofLocal?_of_ofInternet? (read : ofInternet? s = some m) : ofLocal? s = none := by
  obtain ⟨date, join, hour, minute, second, t₁, t₂, t₃, t₄, loose, good, hours, minutes, seconds,
    more⟩ := day_of_ofInternet? m read
  have joined : (join = 'T' ∨ join = 't') ∨ join = ' ' := by simpa using good
  rcases joined with letter | rfl
  · refine (bind_of_read loose _).trans ?_
    exact bind_of_unread (twoDigits_letter letter t₁) _
  · have hours' := (twoDigits_blank t₁).trans (twoDigits_of_number hours)
    refine (bind_of_read loose _).trans ?_
    refine (bind_of_read hours' _).trans ?_
    refine (bind_of_read (mark_cons rfl _) _).trans ?_
    refine (bind_of_read (twoDigits_of_number minutes) _).trans ?_
    refine (bind_of_read (mark_cons rfl _) _).trans ?_
    refine (bind_of_read (twoDigits_of_number seconds) _).trans ?_
    exact if_neg more

theorem ofDay?_of_ofInternet? (read : ofInternet? s = some m) : ofDay? s = none := by
  obtain ⟨date, join, -, -, -, t₁, -, -, -, loose, -⟩ := day_of_ofInternet? m read
  exact bind_of_read loose _

theorem ofDay?_of_ofLocal? (read : ofLocal? s = some m) : ofDay? s = none := by
  obtain ⟨⟨date, t⟩, loose, rest⟩ := Option.bind_eq_some_iff.1 read
  refine (bind_of_read loose _).trans (if_neg ?_)
  rintro rfl
  cases rest

theorem layouts_of_no_day (none : looseDate s = none) :
    ofLocal? s = .none ∧ ofInternet? s = .none ∧ ofDay? s = .none := by
  refine ⟨?_, ?_, ?_⟩
  · rw [ofLocal?, none]
    rfl
  · rw [Option.eq_none_iff_forall_ne_some]
    intro m read
    obtain ⟨date, join, -, -, -, t₁, -, -, -, loose, -⟩ := day_of_ofInternet? m read
    cases none.symm.trans loose
  · rw [ofDay?, none]
    rfl

end

def layouts : List (List Char → Option Moment) := [ofLocal?, ofInternet?, ofDay?]

theorem apart_of_read {a b : List Char → Option Moment} (gone : ∀ t m, b t = some m → a t = none) :
    ∀ t, a t = none ∨ b t = none := by
  intro t
  cases read : b t with
  | none => exact .inr rfl
  | some m => exact .inl (gone t m read)

theorem layouts_pairwise : layouts.Pairwise fun a b => ∀ t, a t = none ∨ b t = none := by
  have localInternet : ∀ t, ofLocal? t = none ∨ ofInternet? t = none :=
    apart_of_read fun _ _ read => ofLocal?_of_ofInternet? read
  have dayLocal : ∀ t, ofDay? t = none ∨ ofLocal? t = none :=
    apart_of_read fun _ _ read => ofDay?_of_ofLocal? read
  have dayInternet : ∀ t, ofDay? t = none ∨ ofInternet? t = none :=
    apart_of_read fun _ _ read => ofDay?_of_ofInternet? read
  simp only [layouts, List.pairwise_cons, List.mem_cons, List.not_mem_nil, or_false]
  refine ⟨?_, ?_, by simp, .nil⟩
  · rintro b (rfl | rfl)
    · exact localInternet
    · exact fun t => (dayLocal t).symm
  · rintro b rfl
    exact fun t => (dayInternet t).symm

theorem eq_of_layouts {a b : List Char → Option Moment} (ha : a ∈ layouts) (hb : b ∈ layouts)
    {t : List Char} {m m' : Moment} (first : a t = some m) (second : b t = some m') : m = m' := by
  have symmetric : Std.Symm fun a b : List Char → Option Moment =>
      ∀ t, a t = none ∨ b t = none := ⟨fun _ _ apart t => (apart t).symm⟩
  by_cases same : a = b
  · subst same
    exact Option.some.inj (first.symm.trans second)
  · rcases layouts_pairwise.forall ha hb same t with none | none
    · cases none.symm.trans first
    · cases none.symm.trans second

theorem findSome?_layouts (t : List Char) :
    layouts.findSome? (fun read => read t) = (ofLocal? t).or ((ofInternet? t).or (ofDay? t)) := by
  cases hl : ofLocal? t <;> cases hi : ofInternet? t <;> cases hd : ofDay? t <;>
    simp [layouts, hl, hi, hd]

theorem findSome?_of_perm {order : List (List Char → Option Moment)} (perm : order.Perm layouts)
    (t : List Char) :
    order.findSome? (fun read => read t) = layouts.findSome? (fun read => read t) := by
  cases found : order.findSome? (fun read => read t) with
  | none =>
    rw [List.findSome?_eq_none_iff] at found
    exact (List.findSome?_eq_none_iff.2 fun a ha => found a (perm.mem_iff.2 ha)).symm
  | some m =>
    obtain ⟨a, ha, first⟩ := List.exists_of_findSome?_eq_some found
    cases usual : layouts.findSome? (fun read => read t) with
    | none => cases first.symm.trans (List.findSome?_eq_none_iff.1 usual a (perm.mem_iff.1 ha))
    | some m' =>
      obtain ⟨b, hb, second⟩ := List.exists_of_findSome?_eq_some usual
      rw [eq_of_layouts (perm.mem_iff.1 ha) hb first second]

theorem findSome?_of_read {a : List Char → Option Moment} (ha : a ∈ layouts) {t : List Char}
    {m : Moment} (read : a t = some m) : layouts.findSome? (fun read => read t) = some m := by
  cases found : layouts.findSome? fun read => read t with
  | none => cases read.symm.trans (List.findSome?_eq_none_iff.1 found a ha)
  | some m' =>
    obtain ⟨b, hb, other⟩ := List.exists_of_findSome?_eq_some found
    rw [eq_of_layouts hb ha other read]

namespace Moment

theorem ofText?_eq_findSome? (s : String) :
    ofText? s = layouts.findSome? fun read => read (trim s.toList) := by
  rw [findSome?_layouts, ofText?]

theorem ofText?_of_read {a : List Char → Option Moment} (ha : a ∈ layouts) {t : List Char}
    {m : Moment} (tight : Tight t) (read : a t = some m) : ofText? (String.ofList t) = some m := by
  rw [ofText?_eq_findSome?, String.toList_ofList, tight.trim, findSome?_of_read ha read]

theorem ofText?_between_blanks {l r : List Char} (left : l.all isBlank = true)
    (right : r.all isBlank = true) (s : List Char) :
    ofText? (String.ofList (l ++ s ++ r)) = ofText? (String.ofList s) := by
  rw [ofText?, ofText?, String.toList_ofList, String.toList_ofList,
    trim_between_blanks left right]

structure At (m : Moment) (date : Date) (seconds : Int) (after : Nat) : Prop where
  instant : m.instant = date.dayNumber * 86400 + seconds
  nano : m.nano = after
  unique : ∀ m' : Moment, m'.instant = m.instant → m'.nano = after → m' = m

theorem at_of_instant {m : Moment} {date : Date} {seconds : Int}
    (instant : m.instant = date.dayNumber * 86400 + seconds) : m.At date seconds m.nano where
  instant := instant
  nano := rfl
  unique _ same nano := eq_of_instant_eq same nano

theorem At.in_day {m : Moment} {date : Date} {second after : Nat}
    (located : m.At date second after) (inDay : second < 86400) :
    m.date = date ∧ m.second = second := by
  have short : after < 2000000000 := located.nano ▸ m.nano_valid
  have same := located.unique ⟨date, second, after, inDay, short⟩ located.instant.symm rfl
  rw [← same]
  exact ⟨rfl, rfl⟩

end Moment

section
variable {date : Date} {year hour minute second : Nat} {a b f z : List Char}

theorem exists_moment (date : Date) {nano : Nat} (bounds : hour ≤ 23 ∧ minute ≤ 59 ∧ second ≤ 59)
    (short : nano < 1000000000) : ∃ m, Moment.ofParts? date hour minute second nano = some m ∧
      m.date = date ∧ m.second = hour * 3600 + minute * 60 + second ∧ m.nano = nano := by
  refine ⟨⟨date, hour * 3600 + minute * 60 + second, nano, by omega, by omega⟩, ?_, rfl, rfl, rfl⟩
  exact Moment.ofParts?_eq_some_iff.2 ⟨bounds.1, bounds.2.1, rfl, .inl ⟨bounds.2.2, rfl, rfl⟩⟩

theorem ofText?_local (same : date.year = year)
    (bounds : hour ≤ 23 ∧ minute ≤ 59 ∧ second ≤ 59)
    (dated : DateText 1 1 year date.month date.day a) (timed : ClockText 1 hour minute second b) :
    ∃ m, Moment.ofText? (String.ofList (a ++ ' ' :: b)) = some m ∧ m.date = date ∧
      m.second = hour * 3600 + minute * 60 + second ∧ m.nano = 0 := by
  obtain ⟨m, made, parts⟩ := exists_moment date bounds (show 0 < 1000000000 by decide)
  have read := ofLocal?_of_texts dated (by decide) (ofParts?_of_dateText dated same) timed made
  have tight := (dated.tight (by decide)).append [' '] (timed.tight (by decide))
  exact ⟨m, Moment.ofText?_of_read (by simp [layouts]) tight read, parts⟩

theorem ofText?_internet {join : Char} {ds : List Char} {seconds : Int}
    (same : date.year = year) (bounds : hour ≤ 23 ∧ minute ≤ 59 ∧ second ≤ 59)
    (dated : DateText 4 2 year date.month date.day a)
    (joined : join = 'T' ∨ join = 't' ∨ join = ' ') (timed : ClockText 2 hour minute second b)
    (fractioned : FractionText ds f) (shifted : OffsetText seconds z) :
    ∃ m, Moment.ofText? (String.ofList (a ++ join :: (b ++ (f ++ z)))) = some m ∧
      m.At date (hour * 3600 + minute * 60 + second - seconds)
        (valueOf ds * 10 ^ 9 / 10 ^ ds.length) := by
  have short := fraction_lt (fraction_fractionText fractioned shifted.stops.1 shifted.stops.2)
  obtain ⟨m, made, day, clock, nano⟩ := exists_moment date bounds short
  have read := ofInternet?_of_texts dated joined timed fractioned shifted
    (ofParts?_of_dateText dated same) made
  have tight := (dated.tight (by decide)).append (join :: (b ++ f)) shifted.tight
  have text : a ++ (join :: (b ++ f) ++ z) = a ++ join :: (b ++ (f ++ z)) := by simp
  rw [text] at tight
  refine ⟨_, Moment.ofText?_of_read (by simp [layouts]) tight read, ?_⟩
  rw [← nano, ← m.nano_back seconds shifted.bounds]
  refine Moment.at_of_instant ?_
  rw [m.instant_back, Moment.instant, day, clock]
  omega

theorem ofText?_day (same : date.year = year)
    (dated : DateText 1 1 year date.month date.day a) :
    Moment.ofText? (String.ofList a) = some (Moment.midnight date) :=
  Moment.ofText?_of_read (by simp [layouts]) (dated.tight (by decide))
    (ofDay?_of_text dated (by decide) (ofParts?_of_dateText dated same))

theorem exists_text_read_alike (same : date.year = year) (short : year ≤ 9999)
    (bounds : hour ≤ 23 ∧ minute ≤ 59 ∧ second ≤ 59) :
    ∃ (a b : List Char) (m : Moment), DateText 4 2 year date.month date.day a ∧
      ClockText 2 hour minute second b ∧ Moment.ofText? (String.ofList (a ++ ' ' :: b)) = some m ∧
      Moment.ofText? (String.ofList (a ++ 'T' :: (b ++ ['Z']))) = some m ∧ m.date = date ∧
      m.second = hour * 3600 + minute * 60 + second ∧ m.nano = 0 := by
  obtain ⟨a, dated⟩ := exists_dateText date short
  obtain ⟨b, timed⟩ := exists_clockText bounds
  obtain ⟨m, read, day, clock, nano⟩ := ofText?_local same bounds dated.loose timed.loose
  obtain ⟨m', read', moment⟩ := ofText?_internet same bounds dated (.inl rfl) timed .none
    (.utc (.inl rfl))
  have instant : m.instant = m'.instant := by
    rw [moment.instant, Moment.instant, day, clock]
    push_cast
    omega
  cases moment.unique m instant nano
  exact ⟨a, b, m, dated, timed, read, read', day, clock, nano⟩

theorem ofText?_no_day {month day : Nat} {rest : List Char} (dated : DateText 1 1 year month day a)
    (none : ¬ ((1 ≤ month ∧ month ≤ 12) ∧ 1 ≤ day ∧ day ≤ monthLength year month))
    (stop : Stops rest) : Moment.ofText? (String.ofList (a ++ rest)) = .none := by
  obtain ⟨kept, front, trimmed⟩ := (dated.tight (by decide)).exists_trim_append rest
  have stop' : Stops kept := by
    obtain ⟨gone, rfl⟩ := front
    intro c hc
    exact stop c (List.mem_head?_append_of_mem_head? hc)
  have unread : looseDate (a ++ kept) = .none := by
    rw [looseDate_dateText dated (by decide) stop', Date.ofParts?, dif_neg none]
    rfl
  have refused := layouts_of_no_day unread
  rw [Moment.ofText?, String.toList_ofList, trimmed]
  simp [refused]

end

/-- Every time of the years 0 to 9999 can be written so that two layouts agree on it. What
is written is what is read, in each of the layouts: a day with a time, with an offset that
is taken off again wherever that leads, or a day alone. White space around it does not
matter, a day that its month does not have is refused whatever comes after it, and since no
text has two layouts it does not matter which is tried first. -/
theorem layouts_agree :
    (∀ (date : Date) (year hour minute second : Nat), date.year = year → year ≤ 9999 →
      hour ≤ 23 ∧ minute ≤ 59 ∧ second ≤ 59 →
      ∃ (a b : List Char) (m : Moment), DateText 4 2 year date.month date.day a ∧
        ClockText 2 hour minute second b ∧
        Moment.ofText? (String.ofList (a ++ ' ' :: b)) = some m ∧
        Moment.ofText? (String.ofList (a ++ 'T' :: (b ++ ['Z']))) = some m ∧ m.date = date ∧
        m.second = hour * 3600 + minute * 60 + second ∧ m.nano = 0) ∧
    (∀ (date : Date) (year hour minute second : Nat) (a b : List Char), date.year = year →
      hour ≤ 23 ∧ minute ≤ 59 ∧ second ≤ 59 → DateText 1 1 year date.month date.day a →
      ClockText 1 hour minute second b →
      ∃ m, Moment.ofText? (String.ofList (a ++ ' ' :: b)) = some m ∧ m.date = date ∧
        m.second = hour * 3600 + minute * 60 + second ∧ m.nano = 0) ∧
    (∀ (date : Date) (year hour minute second : Nat) (join : Char) (a b ds f z : List Char)
      (seconds : Int), date.year = year → hour ≤ 23 ∧ minute ≤ 59 ∧ second ≤ 59 →
      DateText 4 2 year date.month date.day a → join = 'T' ∨ join = 't' ∨ join = ' ' →
      ClockText 2 hour minute second b → FractionText ds f → OffsetText seconds z →
      ∃ m, Moment.ofText? (String.ofList (a ++ join :: (b ++ (f ++ z)))) = some m ∧
        m.At date (hour * 3600 + minute * 60 + second - seconds)
          (valueOf ds * 10 ^ 9 / 10 ^ ds.length) ∧
        (seconds = 0 → m.date = date ∧ m.second = hour * 3600 + minute * 60 + second)) ∧
    (∀ (date : Date) (year : Nat) (a : List Char), date.year = year →
      DateText 1 1 year date.month date.day a →
      Moment.ofText? (String.ofList a) = some (Moment.midnight date)) ∧
    (∀ l r s : List Char, l.all isBlank = true → r.all isBlank = true →
      Moment.ofText? (String.ofList (l ++ s ++ r)) = Moment.ofText? (String.ofList s)) ∧
    (∀ (year month day : Nat) (a rest : List Char), DateText 1 1 year month day a →
      ¬ ((1 ≤ month ∧ month ≤ 12) ∧ 1 ≤ day ∧ day ≤ monthLength year month) → Stops rest →
      Moment.ofText? (String.ofList (a ++ rest)) = none) ∧
    layouts.Pairwise (fun a b => ∀ t, a t = none ∨ b t = none) ∧
    ∀ order : List (List Char → Option Moment), order.Perm layouts →
      ∀ s : String, order.findSome? (fun read => read (trim s.toList)) = Moment.ofText? s := by
  refine ⟨fun _ _ _ _ _ same short bounds => exists_text_read_alike same short bounds,
    fun _ _ _ _ _ _ _ same bounds dated timed => ofText?_local same bounds dated timed,
    fun date _ hour minute second _ _ _ ds _ _ _ same bounds dated joined timed fractioned
      shifted => ?_,
    fun _ _ _ same dated => ofText?_day same dated,
    fun _ _ s left right => Moment.ofText?_between_blanks left right s,
    fun _ _ _ _ _ dated none stop => ofText?_no_day dated none stop, layouts_pairwise,
    fun order perm s => ?_⟩
  · obtain ⟨m, read, moment⟩ := ofText?_internet same bounds dated joined timed fractioned shifted
    refine ⟨m, read, moment, ?_⟩
    rintro rfl
    have here : m.At date (hour * 3600 + minute * 60 + second : Nat)
        (valueOf ds * 10 ^ 9 / 10 ^ ds.length) := by
      push_cast
      simpa using moment
    exact here.in_day (by omega)
  · rw [findSome?_of_perm perm, Moment.ofText?_eq_findSome?]

theorem layouts_agree_over_new_year :
    (∃ m, Moment.ofText? "2023-12-31T23:30:00.5-01:30" = some m ∧ m.nano = 500000000 ∧
      m.date = ⟨2024, 1, 1, by decide, by decide⟩ ∧ m.second = 3600) ∧
    Moment.ofText? "\t2024-2-29 " =
      some (Moment.midnight ⟨2024, 2, 29, by decide, by decide⟩) ∧
    Moment.ofText? "2023-02-29T10:30:00Z" = none := by
  obtain ⟨-, -, internet, day, blanks, no_day, -⟩ := layouts_agree
  refine ⟨?_, ?_, ?_⟩
  · obtain ⟨m, read, moment, -⟩ := internet ⟨2023, 12, 31, by decide, by decide⟩ 2023 23 30 0 'T'
      ['2', '0', '2', '3', '-', '1', '2', '-', '3', '1'] ['2', '3', ':', '3', '0', ':', '0', '0']
      ['5'] ['.', '5'] ['-', '0', '1', ':', '3', '0'] (-(1 * 3600 + 30 * 60)) rfl (by decide)
      (.parts (y := ['2', '0', '2', '3']) (m := ['1', '2']) (d := ['3', '1']) (by decide))
      (.inl rfl)
      (.parts (h := ['2', '3']) (m := ['3', '0']) (s := ['0', '0']) (by decide))
      (.point (by decide) (by decide))
      (.behind (.inl rfl) (h := ['0', '1']) (m := ['3', '0']) (by decide) (by decide))
    let new : Moment :=
      ⟨⟨2024, 1, 1, by decide, by decide⟩, 3600, 500000000, by decide, by decide⟩
    have late : new.instant = m.instant := .trans (by decide) moment.instant.symm
    have same : new = m := moment.unique new late rfl
    exact ⟨m, read, same ▸ ⟨rfl, rfl, rfl⟩⟩
  · exact (blanks ['\t'] [' '] ['2', '0', '2', '4', '-', '2', '-', '2', '9'] (by decide)
      (by decide)).trans (day ⟨2024, 2, 29, by decide, by decide⟩ 2024 _ rfl
        (.parts (y := ['2', '0', '2', '4']) (m := ['2']) (d := ['2', '9']) (by decide)))
  · exact no_day 2023 2 29 ['2', '0', '2', '3', '-', '0', '2', '-', '2', '9']
      ['T', '1', '0', ':', '3', '0', ':', '0', '0', 'Z']
      (.parts (y := ['2', '0', '2', '3']) (m := ['0', '2']) (d := ['2', '9']) (by decide))
      (by decide) (stops_cons (by decide) _)

end FieldMapping.Calendar
