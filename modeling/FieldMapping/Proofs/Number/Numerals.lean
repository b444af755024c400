import Mathlib.Data.List.TakeWhile
import FieldMapping.Proofs.Number.Nearest

/-! Integers in decimal, read as numbers. A numeral of at most 63 bits is the integer it
says. One that is longer is no integer but the binary64 number nearest to it, even where
the integer itself would be a number. -/

namespace FieldMapping

namespace Text

theorem isBlank_of_isDigit {c : Char} (digit : isDigit c = true) : isBlank c = false := by
  have bounds := isDigit_bounds digit
  simp only [isBlank, inRanges, blankRanges, List.any_cons, List.any_nil, Bool.or_eq_false_iff,
    Bool.and_eq_false_iff, decide_eq_false_iff_not, and_true]
  omega

theorem solid_digits (n : Nat) : ∀ c ∈ digits n, isBlank c = false :=
  fun c hc => isBlank_of_isDigit (List.all_eq_true.1 (all_isDigit_digits n) c hc)

theorem length_digits_le {n k : Nat} (pos : 0 < k) (small : n < 10 ^ k) :
    (digits n).length ≤ k := by
  induction n using digits.induct generalizing k with
  | case1 n h =>
    rw [digits, if_pos h]
    exact pos
  | case2 n h ih =>
    rw [digits, if_neg h, List.length_append, List.length_singleton]
    obtain ⟨k, rfl⟩ := Nat.exists_eq_add_one.2 pos
    have more : 0 < k := by
      rw [Nat.pos_iff_ne_zero]
      rintro rfl
      exact h small
    have rest : n / 10 < 10 ^ k := Nat.div_lt_of_lt_mul (by rwa [← Nat.pow_succ'])
    exact Nat.succ_le_succ (ih more rest)

theorem toList_ofInt (i : Int) :
    (ofInt i).toList = if i < 0 then '-' :: digits i.natAbs else digits i.natAbs := by
  rw [ofInt, String.toList_ofList]

theorem ofInt_ne_nil (i : Int) : (ofInt i).toList ≠ [] := by
  rw [toList_ofInt]
  split
  · exact List.cons_ne_nil _ _
  · exact digits_ne_nil _

theorem solid_ofInt (i : Int) : ∀ c ∈ (ofInt i).toList, isBlank c = false := by
  rw [toList_ofInt]
  split
  · rintro c (_ | ⟨_, hc⟩)
    · decide
    · exact solid_digits _ c hc
  · exact solid_digits _

theorem splitDigits_of_all {s : List Char} (ds : s.all isDigit = true) : splitDigits s = (s, []) := by
  have each := List.all_eq_true.1 ds
  rw [splitDigits, List.takeWhile_eq_self_iff.2 each, List.dropWhile_eq_nil_iff.2 each]

end Text

namespace Binary64

theorem roundedMagnitude_lt {n : Nat} (short : n < 2 ^ 64) : roundedMagnitude n 1 < infinityBits := by
  by_cases pos : n = 0
  · subst pos
    decide
  · have length : n.log2 < 64 := (Nat.log2_lt pos).2 short
    have leading := (significand_bounds pos).2
    rw [roundedMagnitude_one pos]
    unfold infinityBits binade at *
    omega

theorem parts_of_magnitude {x : Binary64} {e s : Nat} (high : binade ≤ s) (low : s < 2 * binade)
    (is : x.magnitude = e * binade + s) : x.parts = (s, e) := by
  have place : x.magnitude / binade = e + 1 := by
    unfold binade at *
    omega
  have rest : x.magnitude % binade = s - binade := by
    unfold binade at *
    omega
  simp only [parts, place, rest, Nat.add_one_ne_zero, if_false, Nat.add_sub_cancel,
    Nat.add_sub_cancel' high]

theorem ratio_of_roundedMagnitude {x : Binary64} {n : Nat} (long : 2 ^ 52 ≤ n)
    (rounded : x.magnitude = roundedMagnitude n 1) : x.ratio = (nearestNat n, 1) := by
  have pos : n ≠ 0 := by
    rintro rfl
    exact absurd long (by decide)
  have bits : 52 ≤ n.log2 := (Nat.le_log2 pos).2 long
  obtain ⟨high, low⟩ := significand_bounds pos
  rw [roundedMagnitude_one pos] at rounded
  have value : nearestNat n = significand n * 2 ^ (n.log2 - 52) := by
    have scaled := nearestNat_mul_binade n
    have split : 2 ^ n.log2 = 2 ^ (n.log2 - 52) * binade := by
      rw [binade_eq, ← Nat.pow_add]
      congr 1
      omega
    rw [split, ← Nat.mul_assoc] at scaled
    exact Nat.eq_of_mul_eq_mul_right (by decide) scaled
  rcases Nat.lt_or_eq_of_le low with less | carried
  · rw [ratio, parts_of_magnitude high less rounded, value]
    have whole : 1074 ≤ n.log2 + 1022 := by omega
    have places : n.log2 + 1022 - 1074 = n.log2 - 52 := by omega
    simp only [whole, if_true, places, Nat.pow_eq]
  · -- the carry into the exponent leaves a power of two
    have next : x.magnitude = (n.log2 + 1023) * binade + binade := by
      rw [rounded, carried, Nat.succ_mul (n.log2 + 1022), Nat.two_mul, Nat.add_assoc]
    rw [ratio, parts_of_magnitude (Nat.le_refl _) (by decide) next, value, carried]
    have whole : 1074 ≤ n.log2 + 1023 := by omega
    have places : n.log2 + 1023 - 1074 = n.log2 - 52 + 1 := by omega
    simp only [whole, if_true, places, Nat.pow_eq, Nat.pow_succ', Nat.mul_left_comm, Nat.mul_assoc]

theorem ofDecimal?_integer {n : Nat} (pos : n ≠ 0) (short : n < 2 ^ 64) :
    ofDecimal? false n 0 =
      some ⟨false, roundedMagnitude n 1, roundedMagnitude_lt short⟩ := by
  have length : (Text.digits n).length ≤ 20 :=
    Text.length_digits_le (by decide) (Nat.lt_of_lt_of_le short (by decide))
  have one : n * Nat.pow 10 (0 : Int).toNat = n := Nat.mul_one n
  have near : ¬ (n = 0 ∨ ((Text.digits n).length : Int) + 0 < -decimalReach) := by
    unfold decimalReach
    omega
  have reached : ¬ decimalReach < ((Text.digits n).length : Int) + 0 := by
    unfold decimalReach
    omega
  unfold ofDecimal?
  dsimp only
  rw [if_neg near, if_neg reached, if_pos (Int.le_refl 0), one]
  exact dif_pos (roundedMagnitude_lt short)

end Binary64

namespace Number
open Text Binary64

theorem splitSign_of_all {s : List Char} (ds : s.all isDigit = true) : splitSign s = (false, s) := by
  unfold splitSign
  split
  · simp [show isDigit '-' = false from by decide] at ds
  · simp [show isDigit '+' = false from by decide] at ds
  · rfl

theorem splitSign_ofInt (i : Int) :
    splitSign (ofInt i).toList = (decide (i < 0), digits i.natAbs) := by
  rw [toList_ofInt]
  by_cases negative : i < 0
  · simp [negative, splitSign]
  · simp [negative, splitSign_of_all (all_isDigit_digits _)]

theorem integerOfText?_ofInt (i : Int) :
    integerOfText? (ofInt i).toList =
      if h : -9223372036854775808 ≤ i ∧ i < 9223372036854775808 then
        some (int i ⟨h.1, Int.lt_trans h.2 (by decide)⟩)
      else none := by
  have value : (if i < 0 then -(i.natAbs : Int) else i.natAbs) = i := by
    split <;> omega
  unfold integerOfText?
  simp only [splitSign_ofInt, digits_ne_nil, all_isDigit_digits, valueOf_digits, false_or,
    Bool.true_eq_false, if_false, decide_eq_true_eq, value]

theorem decimalOfText?_digits {n : Nat} (pos : n ≠ 0) (short : n < 2 ^ 64) :
    decimalOfText? (digits n) =
      some (double ⟨false, roundedMagnitude n 1, roundedMagnitude_lt short⟩) := by
  unfold decimalOfText?
  simp [splitSign_of_all (all_isDigit_digits n), splitDigits_of_all (all_isDigit_digits n),
    digits_ne_nil, exponentOfText?, valueOf_digits, ofDecimal?_integer pos short]

section
variable {i : Int} {before after : List Char}
variable (left : before.all isBlank = true) (right : after.all isBlank = true)
include left right

theorem ofText?_pad :
    ofText? (String.ofList (before ++ (ofInt i).toList ++ after)) =
      (integerOfText? (ofInt i).toList).or (decimalOfText? (ofInt i).toList) := by
  rw [ofText?, String.toList_ofList, trim_pad left right (ofInt_ne_nil i) (solid_ofInt i)]

theorem ofText?_of_short (low : -9223372036854775808 ≤ i) (high : i < 9223372036854775808) :
    ofText? (String.ofList (before ++ (ofInt i).toList ++ after)) =
      some (int i ⟨low, Int.lt_trans high (by decide)⟩) := by
  rw [ofText?_pad left right, integerOfText?_ofInt, dif_pos ⟨low, high⟩, Option.some_or]

theorem ofText?_of_long (long : 9223372036854775808 ≤ i) (short : i.natAbs < 2 ^ 64) :
    ofText? (String.ofList (before ++ (ofInt i).toList ++ after)) =
      some (double ⟨false, roundedMagnitude i.natAbs 1, roundedMagnitude_lt short⟩) := by
  have text : (ofInt i).toList = digits i.natAbs := by
    rw [toList_ofInt, if_neg (by omega)]
  rw [ofText?_pad left right, integerOfText?_ofInt, dif_neg (by omega), Option.none_or, text]
  exact decimalOfText?_digits (by omega) short

end

end Number

end FieldMapping
