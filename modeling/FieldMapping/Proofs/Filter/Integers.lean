import FieldMapping.Proofs.Filter.Grammar
import FieldMapping.Proofs.Number.Numerals

/-! Integers in filters for numbers. The ends of a range are compared after rounding, so
no range that runs upwards is refused, and one that runs downwards passes where rounding
makes its ends the same. An integer may also be written as text; of 63 bits or fewer it is
the same operand then, and a longer one is rounded. -/

namespace FieldMapping

namespace Filter
open Binary64

structure IsIntegerRange (node : Record) (low high : Int) : Prop where
  test : node.get? "type" = some (.string "inRange")
  start : ∃ bounds, node.get? "filter" = some (.number (.int low bounds))
  stop : ∃ bounds, node.get? "filterTo" = some (.number (.int high bounds))

variable {column argument : String} {node : Record} {low high : Int}

theorem Kind.holds_number_iff {n : Number} {key : String} {s : Scalar}
    (given : node.get? key = some (.number n)) : Kind.number.Holds node key s ↔ s = .number n := by
  constructor
  · rintro ⟨v, found, denotes⟩
    cases given.symm.trans found
    cases denotes
    rfl
  · rintro rfl
    exact ⟨_, given, .number n⟩

theorem compare?_number_ne_gt_iff {a b : Number} :
    (Scalar.number a).compare? (.number b) ≠ some .gt ↔ a.order ≤ b.order := by
  rw [Scalar.compare?, ne_eq, Option.some.injEq, ← ne_eq, Int.compare_ne_gt]

theorem eq_of_name {α : Type} {name : α → String} {find? : String → Option α}
    (finds : ∀ a, find? (name a) = some a) {a b : α} (same : name a = name b) : a = b := by
  have found := finds a
  rw [same, finds b] at found
  exact (Option.some.inj found).symm

namespace IsIntegerRange

theorem supplied_iff (range : IsIntegerRange node low high) :
    Test.inRange.Supplied .number node ↔ nearest low ≤ nearest high := by
  obtain ⟨lows, start⟩ := range.start
  obtain ⟨highs, stop⟩ := range.stop
  rw [← Number.order_le_iff (a := lows) (b := highs), ← compare?_number_ne_gt_iff]
  constructor
  · rintro ⟨first, last, holdsFirst, holdsLast, upwards⟩
    rwa [(Kind.holds_number_iff start).1 holdsFirst, (Kind.holds_number_iff stop).1 holdsLast]
      at upwards
  · intro upwards
    exact ⟨_, _, (Kind.holds_number_iff start).2 rfl, (Kind.holds_number_iff stop).2 rfl, upwards⟩

theorem condition_iff (range : IsIntegerRange node low high) :
    IsCondition .number node ↔ nearest low ≤ nearest high := by
  rw [← range.supplied_iff]
  constructor
  · intro condition
    cases condition with
    | @named test given supported supplied =>
      have same := given.symm.trans range.test
      rw [Option.some.injEq, Value.string.injEq] at same
      have isRange : test = .inRange := eq_of_name Test.ofName?_name same
      rwa [isRange] at supplied
    | unnamed silent => cases silent.symm.trans range.test
  · exact .named range.test rfl

theorem natAbs_lt (range : IsIntegerRange node low high) :
    low.natAbs < 2 ^ 64 ∧ high.natAbs < 2 ^ 64 := by
  obtain ⟨lows, -⟩ := range.start
  obtain ⟨highs, -⟩ := range.stop
  omega

end IsIntegerRange

theorem ofValue_passes_iff_of_alone {kind : Kind}
    (declared : node.get? "filterType" = some (.string kind.name))
    (alone : ∀ key ∈ ["operator", "conditions", "condition1"], node.get? key = none) :
    (∃ f, ofValue (.object [(column, .object node)]) = .ok f) ↔ IsCondition kind node := by
  have read : (∃ f, ofValue (.object [(column, .object node)]) = .ok f) ↔
      IsColumn (.object node) := by
    simp only [ofValue, map_passes_iff, traverse_passes_iff, namedColumnOf_passes_iff,
      List.mem_singleton, forall_eq]
  rw [read]
  constructor
  · intro valid
    cases valid with
    | @single _ own named _ condition =>
      have same := named.symm.trans declared
      rw [Option.some.injEq, Value.string.injEq] at same
      have isKind : own = kind := eq_of_name Kind.ofName?_name same
      rwa [isKind] at condition
    | joined _ joins => cases joins.symm.trans (alone "operator" (by simp))
  · exact .single declared alone

/-- A range of integers is refused if it runs downwards and rounding tells its ends apart.
Ends of at most 53 bits are always told apart, and so are those more than 2048 apart. -/
theorem range_passes_iff (column : String) (range : IsIntegerRange node low high) :
    ((∃ c, conditionOf column .number node = .ok c) ↔ low ≤ high ∨ nearest low = nearest high) ∧
    ((∃ c, conditionOf column .number node = .ok c) → low ≤ high + 2048) ∧
    (low.natAbs ≤ 2 ^ 53 → high.natAbs ≤ 2 ^ 53 →
      ((∃ c, conditionOf column .number node = .ok c) ↔ low ≤ high)) ∧
    (node.get? "filterType" = some (.string "number") →
      (∀ key ∈ ["operator", "conditions", "condition1"], node.get? key = none) →
      ((∃ f, ofValue (.object [(column, .object node)]) = .ok f) ↔
        ∃ c, conditionOf column .number node = .ok c)) := by
  rw [conditionOf_passes_iff]
  refine ⟨?_, ?_, ?_, fun declared alone => ofValue_passes_iff_of_alone declared alone⟩
  · rw [range.condition_iff]
    constructor
    · intro upwards
      rcases Int.le_total low high with le | le
      · exact .inl le
      · exact .inr (Int.le_antisymm upwards (nearest_mono le))
    · rintro (le | same)
      · exact nearest_mono le
      · exact Int.le_of_eq same
  · rw [range.condition_iff]
    intro upwards
    have below := (nearest_bounds range.natAbs_lt.1).1
    have above := (nearest_bounds range.natAbs_lt.2).2
    omega
  · intro shortLow shortHigh
    rw [range.condition_iff, nearest_of_natAbs_le shortLow, nearest_of_natAbs_le shortHigh]

def rangeNode (low high : Number) : Record :=
  [("filterType", .string "number"), ("type", .string "inRange"), ("filter", .number low),
   ("filterTo", .number high)]

theorem range_passes_iff_past_53_bits :
    let first : Number := .int 9007199254740993 (by decide)
    let byOne := rangeNode first (.int 9007199254740992 (by decide))
    let byTwo := rangeNode first (.int 9007199254740991 (by decide))
    (∃ c, conditionOf "id" .number byOne = .ok c) ∧
    (∃ f, ofValue (.object [("id", .object byOne)]) = .ok f) ∧
    ¬ (∃ c, conditionOf "id" .number byTwo = .ok c) ∧
    ¬ (∃ f, ofValue (.object [("id", .object byTwo)]) = .ok f) := by
  intro first byOne byTwo
  have one : IsIntegerRange byOne 9007199254740993 9007199254740992 :=
    ⟨rfl, ⟨by decide, rfl⟩, ⟨by decide, rfl⟩⟩
  have two : IsIntegerRange byTwo 9007199254740993 9007199254740991 :=
    ⟨rfl, ⟨by decide, rfl⟩, ⟨by decide, rfl⟩⟩
  obtain ⟨passes, -, -, whole⟩ := range_passes_iff "id" one
  obtain ⟨refused, -, -, wholly⟩ := range_passes_iff "id" two
  have accepted := passes.2 (.inr (by decide +kernel))
  have apart : ¬ ∃ c, conditionOf "id" .number byTwo = .ok c := by
    rw [refused]
    decide +kernel
  refine ⟨accepted, (whole rfl ?_).2 accepted, apart, fun read => apart ((wholly rfl ?_).1 read)⟩
  · simp [byOne, rangeNode, Assoc.get?]
  · simp [byTwo, rangeNode, Assoc.get?]

/-- A range is accepted that runs down by one. -/
theorem reversed_range :
    let low : Number := .int 9007199254740993 (by decide)
    let high : Number := .int 9007199254740992 (by decide)
    conditionOf "id" .number (rangeNode low high) =
        .ok ⟨.number, .inRange, .range (.number low) (.number high)⟩ ∧
      ¬ (9007199254740993 : Int) ≤ 9007199254740992 := by
  decide +kernel

def numeral (before after : List Char) (i : Int) : Value :=
  .string (String.ofList (before ++ (Text.ofInt i).toList ++ after))

theorem scalarOf_string (column argument : String) {s : String} {n : Number}
    (reads : Number.ofText? s = some n) :
    scalarOf column .number argument (some (.string s)) = .ok (.number n) := by
  simp [scalarOf, reads]

/-- Text is read as the integer that it says exactly if 63 bits hold it. A longer integer
is read as the binary64 number whose value is the nearest integer of 53 bits. -/
theorem numeral_is_integer_iff (column argument : String) {i : Int}
    (bounds : -9223372036854775808 ≤ i ∧ i < 18446744073709551616) {before after : List Char}
    (left : before.all Text.isBlank = true) (right : after.all Text.isBlank = true) :
    (scalarOf column .number argument (some (numeral before after i)) =
        scalarOf column .number argument (some (.number (.int i bounds))) ↔
      i < 9223372036854775808) ∧
    (9223372036854775808 ≤ i → ∃ x : Binary64,
      scalarOf column .number argument (some (numeral before after i)) =
        .ok (.number (.double x)) ∧
      x.negative = false ∧ x.ratio = (nearestNat i.natAbs, 1)) := by
  have number : scalarOf column .number argument (some (.number (.int i bounds))) =
      .ok (.number (.int i bounds)) := rfl
  rcases Int.lt_or_le i 9223372036854775808 with short | long
  · have text := scalarOf_string column argument
      (Number.ofText?_of_short left right bounds.1 short)
    exact ⟨⟨fun _ => short, fun _ => text.trans number.symm⟩, fun long => absurd short (by omega)⟩
  · have size : i.natAbs < 2 ^ 64 := by omega
    have text := scalarOf_string column argument (Number.ofText?_of_long left right long size)
    refine ⟨⟨fun same => ?_, fun short => absurd short (by omega)⟩, fun _ =>
      ⟨_, text, rfl, ratio_of_roundedMagnitude (by omega) rfl⟩⟩
    cases text.symm.trans (same.trans number)

theorem numeral_is_integer_iff_at_greatest :
    let greatest : Number := .int 9223372036854775807 (by decide)
    scalarOf "id" .number "filter" (some (numeral [' '] ['\t'] 9223372036854775807)) =
      .ok (.number greatest) ∧
    ∃ x : Binary64, scalarOf "id" .number "filter" (some (numeral [] [] 18446744073709551615)) =
        .ok (.number (.double x)) ∧
      x.negative = false ∧ x.ratio = (18446744073709551616, 1) := by
  intro greatest
  have blank : [' '].all Text.isBlank = true ∧ ['\t'].all Text.isBlank = true := by decide
  obtain ⟨same, -⟩ := numeral_is_integer_iff "id" "filter" (i := 9223372036854775807) (by decide)
    blank.1 blank.2
  obtain ⟨-, rounded⟩ := numeral_is_integer_iff "id" "filter" (i := 18446744073709551615)
    (by decide) List.all_nil List.all_nil
  have value : nearestNat (18446744073709551615 : Int).natAbs = 18446744073709551616 := by
    decide +kernel
  exact ⟨same.2 (by decide), value ▸ rounded (by decide)⟩

/-- Written as text and written as a number it is not the same operand. -/
theorem numeral_of_64_bits :
    scalarOf "id" .number "filter" (some (numeral [] [] 9223372036854775808)) ≠
      scalarOf "id" .number "filter"
        (some (.number (.int 9223372036854775808 (by decide)))) := by
  decide +kernel

end Filter

end FieldMapping
