import FieldMapping.Number.Basic
import Mathlib.Algebra.Group.Nat.Defs

/-! Integers as binary64 numbers. Of an integer the 53 leading bits are kept, so the
number that stands for it is an integer too: the nearest one whose bits below those are
zero. Magnitudes grow with that integer, and the order of numbers is the order of the
nearest integers. -/

namespace FieldMapping

namespace Binary64

theorem roundDiv_cases (num den : Nat) :
    (roundDiv num den = num / den ∧ 2 * (num % den) ≤ den) ∨
      (roundDiv num den = num / den + 1 ∧ den ≤ 2 * (num % den)) := by
  unfold roundDiv
  dsimp only
  split
  · exact .inl ⟨rfl, by omega⟩
  · split
    · exact .inr ⟨rfl, by omega⟩
    · split
      · exact .inl ⟨rfl, by omega⟩
      · exact .inr ⟨rfl, by omega⟩

theorem roundDiv_mul_bounds (num : Nat) {den : Nat} (pos : 0 < den) :
    2 * num ≤ 2 * (roundDiv num den * den) + den ∧
      2 * (roundDiv num den * den) ≤ 2 * num + den := by
  have parts := Nat.div_add_mod' num den
  have below := Nat.mod_lt num pos
  rcases roundDiv_cases num den with ⟨down, small⟩ | ⟨up, large⟩
  · rw [down]
    omega
  · rw [up, Nat.add_one_mul (num / den) den]
    omega

theorem roundDiv_mul_self {den : Nat} (pos : 0 < den) (q : Nat) : roundDiv (q * den) den = q := by
  simp [roundDiv, Nat.mul_div_cancel _ pos, pos]

theorem roundDiv_mul_right (num den : Nat) {c : Nat} (pos : 0 < c) :
    roundDiv (num * c) (den * c) = roundDiv num den := by
  have below : 2 * (num % den * c) < den * c ↔ 2 * (num % den) < den := by
    rw [← Nat.mul_assoc, Nat.mul_lt_mul_right pos]
  have above : den * c < 2 * (num % den * c) ↔ den < 2 * (num % den) := by
    rw [← Nat.mul_assoc, Nat.mul_lt_mul_right pos]
  simp only [roundDiv, Nat.mul_div_mul_right _ _ pos, Nat.mul_mod_mul_right, below, above]

theorem roundDiv_mono {a b : Nat} (le : a ≤ b) (den : Nat) : roundDiv a den ≤ roundDiv b den := by
  have quotients : a / den ≤ b / den := Nat.div_le_div_right le
  rcases Nat.lt_or_eq_of_le quotients with less | same
  · have upper := roundDiv_cases a den
    have lower := roundDiv_cases b den
    omega
  · have remainders : a % den ≤ b % den := by
      have first := Nat.div_add_mod a den
      have second := Nat.div_add_mod b den
      rw [same] at first
      omega
    unfold roundDiv
    dsimp only
    rw [same]
    repeat' split
    all_goals omega

/-- The 53 leading bits of a positive integer, the others rounded into them. -/
def significand (n : Nat) : Nat := roundDiv (n * binade) (2 ^ n.log2)

theorem binade_eq : binade = 2 ^ 52 := rfl

theorem significand_bounds {n : Nat} (pos : n ≠ 0) :
    binade ≤ significand n ∧ significand n ≤ 2 * binade := by
  have unit : 0 < 2 ^ n.log2 := Nat.two_pow_pos _
  have low : binade * 2 ^ n.log2 ≤ n * binade := by
    rw [Nat.mul_comm]
    exact Nat.mul_le_mul_right _ (Nat.log2_self_le pos)
  have high : n * binade ≤ 2 * binade * 2 ^ n.log2 := by
    have top : n ≤ 2 ^ n.log2 * 2 := by
      rw [← Nat.pow_succ]
      exact Nat.le_of_lt Nat.lt_log2_self
    calc n * binade ≤ 2 ^ n.log2 * 2 * binade := Nat.mul_le_mul_right _ top
      _ = 2 * binade * 2 ^ n.log2 := by ac_rfl
  unfold significand
  constructor
  · simpa only [roundDiv_mul_self unit] using roundDiv_mono low (2 ^ n.log2)
  · simpa only [roundDiv_mul_self unit] using roundDiv_mono high (2 ^ n.log2)

theorem lastPlace_one {n : Nat} (pos : n ≠ 0) : lastPlace n 1 = (n.log2 : Int) - 52 := by
  have low := Nat.log2_self_le pos
  have one : Nat.log2 1 = 0 := rfl
  -- one place further down there would be 54 bits
  have long : ¬ (inUnits n 1 (n.log2 - 53)).1 / (inUnits n 1 (n.log2 - 53)).2 < 2 * binade := by
    rw [Nat.not_lt]
    unfold inUnits
    split
    · next large =>
      rw [Nat.one_mul, Nat.pow_eq, Nat.le_div_iff_mul_le (Nat.two_pow_pos _)]
      have size : 2 * binade * 2 ^ ((n.log2 : Int) - 53).toNat = 2 ^ n.log2 := by
        rw [binade_eq, ← Nat.pow_succ', ← Nat.pow_add]
        congr 1
        omega
      exact size ▸ low
    · next small =>
      have size : 2 * binade = 2 ^ n.log2 * 2 ^ (-((n.log2 : Int) - 53)).toNat := by
        rw [binade_eq, ← Nat.pow_succ', ← Nat.pow_add]
        congr 1
        omega
      rw [Nat.div_one, size]
      exact Nat.mul_le_mul_right _ low
  unfold lastPlace
  simp only [one, Int.natCast_zero, Int.sub_zero]
  rw [if_neg long]
  omega

theorem roundedMagnitude_one {n : Nat} (pos : n ≠ 0) :
    roundedMagnitude n 1 = (n.log2 + 1022) * binade + significand n := by
  have place : ((n.log2 : Int) - 52 + 1074).toNat = n.log2 + 1022 := by omega
  unfold roundedMagnitude
  rw [if_neg pos]
  simp only [lastPlace_one pos, place, Nat.add_left_cancel_iff]
  unfold inUnits significand
  split
  · next large =>
    have size : 2 ^ n.log2 = 1 * 2 ^ ((n.log2 : Int) - 52).toNat * binade := by
      rw [binade_eq, Nat.one_mul, ← Nat.pow_add]
      congr 1
      omega
    rw [size, roundDiv_mul_right _ _ (by decide)]
    rfl
  · next small =>
    have size : n * binade = n * 2 ^ (-((n.log2 : Int) - 52)).toNat * 2 ^ n.log2 := by
      rw [binade_eq, Nat.mul_assoc, ← Nat.pow_add]
      congr 2
      omega
    rw [size, roundDiv_mul_self (Nat.two_pow_pos _)]
    exact roundDiv_one _

def lastBit (n : Nat) : Nat := 2 ^ (n.log2 - 52)

def nearestNat (n : Nat) : Nat := roundDiv n (lastBit n) * lastBit n

theorem nearestNat_mul_binade (n : Nat) : nearestNat n * binade = significand n * 2 ^ n.log2 := by
  unfold nearestNat significand lastBit
  by_cases large : 52 ≤ n.log2
  · have size : 2 ^ n.log2 = 2 ^ (n.log2 - 52) * binade := by
      rw [binade_eq, ← Nat.pow_add]
      congr 1
      omega
    rw [size, roundDiv_mul_right _ _ (by decide), Nat.mul_assoc]
  · have size : n * binade = n * 2 ^ (52 - n.log2) * 2 ^ n.log2 := by
      rw [binade_eq, Nat.mul_assoc, ← Nat.pow_add]
      congr 2
      omega
    have whole : n.log2 - 52 = 0 := by omega
    rw [size, roundDiv_mul_self (Nat.two_pow_pos _), whole, Nat.pow_zero, roundDiv_one, Nat.mul_one,
      size]

theorem le_raised_iff {s t : Nat} (hs : s ≤ 2 * binade) (ht : binade ≤ t) (k : Nat) :
    s ≤ k * binade + t ↔ s ≤ t * 2 ^ k := by
  cases k with
  | zero => simp
  | succ k =>
    have grown : t * 2 ^ 1 ≤ t * 2 ^ (k + 1) :=
      Nat.mul_le_mul_left t (Nat.pow_le_pow_right Nat.two_pos (Nat.le_add_left 1 k))
    unfold binade at *
    omega

theorem raised_le_iff {s t : Nat} (hs : binade ≤ s) (ht : t ≤ 2 * binade) (k : Nat) :
    k * binade + s ≤ t ↔ s * 2 ^ k ≤ t := by
  rcases k with _ | _ | k
  · simp
  · unfold binade at *
    omega
  · have grown : s * 2 ^ 2 ≤ s * 2 ^ (k + 1 + 1) :=
      Nat.mul_le_mul_left s (Nat.pow_le_pow_right Nat.two_pos (Nat.le_add_left 2 k))
    unfold binade at *
    omega

theorem scaled_le_iff {s t : Nat} (hs : binade ≤ s ∧ s ≤ 2 * binade)
    (ht : binade ≤ t ∧ t ≤ 2 * binade) (a b : Nat) :
    a * binade + s ≤ b * binade + t ↔ s * 2 ^ a ≤ t * 2 ^ b := by
  rcases Nat.le_total a b with le | le
  · obtain ⟨k, rfl⟩ := Nat.exists_eq_add_of_le le
    rw [Nat.pow_add, Nat.mul_comm (2 ^ a), ← Nat.mul_assoc,
      Nat.mul_le_mul_right_iff (Nat.two_pow_pos a), ← le_raised_iff hs.2 ht.1 k,
      Nat.add_mul, Nat.add_assoc, Nat.add_le_add_iff_left]
  · obtain ⟨k, rfl⟩ := Nat.exists_eq_add_of_le le
    rw [Nat.pow_add, Nat.mul_comm (2 ^ b), ← Nat.mul_assoc,
      Nat.mul_le_mul_right_iff (Nat.two_pow_pos b), ← raised_le_iff hs.1 ht.2 k,
      Nat.add_mul, Nat.add_assoc, Nat.add_le_add_iff_left]

theorem roundedMagnitude_zero : roundedMagnitude 0 1 = 0 := rfl

theorem nearestNat_zero : nearestNat 0 = 0 := rfl

theorem nearestNat_pos {n : Nat} (pos : n ≠ 0) : 0 < nearestNat n := by
  have scaled : 0 < nearestNat n * binade := by
    rw [nearestNat_mul_binade]
    exact Nat.mul_pos (Nat.lt_of_lt_of_le (by decide) (significand_bounds pos).1)
      (Nat.two_pow_pos _)
  exact Nat.pos_of_mul_pos_right scaled

theorem nearestNat_le_iff {m n : Nat} (hm : m ≠ 0) (hn : n ≠ 0) :
    nearestNat m ≤ nearestNat n ↔
      m.log2 * binade + significand m ≤ n.log2 * binade + significand n := by
  rw [scaled_le_iff (significand_bounds hm) (significand_bounds hn), ← nearestNat_mul_binade,
    ← nearestNat_mul_binade, Nat.mul_le_mul_right_iff (by decide)]

theorem roundedMagnitude_pos {n : Nat} (pos : n ≠ 0) : 0 < roundedMagnitude n 1 := by
  have leading := (significand_bounds pos).1
  rw [roundedMagnitude_one pos]
  unfold binade at *
  omega

theorem roundedMagnitude_le_iff (m n : Nat) :
    roundedMagnitude m 1 ≤ roundedMagnitude n 1 ↔ nearestNat m ≤ nearestNat n := by
  by_cases hm : m = 0
  · subst hm
    simp [roundedMagnitude_zero, nearestNat_zero]
  · by_cases hn : n = 0
    · subst hn
      have magnitude := roundedMagnitude_pos hm
      have nearest := nearestNat_pos hm
      rw [roundedMagnitude_zero, nearestNat_zero]
      omega
    · rw [nearestNat_le_iff hm hn, roundedMagnitude_one hm, roundedMagnitude_one hn]
      unfold binade
      omega

theorem nearestNat_mono {m n : Nat} (le : m ≤ n) : nearestNat m ≤ nearestNat n := by
  by_cases hm : m = 0
  · rw [hm, nearestNat_zero]
    exact Nat.zero_le _
  · have hn : n ≠ 0 := by omega
    have lengths : m.log2 ≤ n.log2 := (Nat.le_log2 hn).2 (Nat.le_trans (Nat.log2_self_le hm) le)
    rw [nearestNat_le_iff hm hn]
    rcases Nat.lt_or_eq_of_le lengths with shorter | same
    · have upper := (significand_bounds hm).2
      have lower := (significand_bounds hn).1
      unfold binade at *
      omega
    · have leading : significand m ≤ significand n := by
        unfold significand
        rw [same]
        exact roundDiv_mono (Nat.mul_le_mul_right _ le) _
      rw [same]
      exact Nat.add_le_add_left leading _

theorem nearestNat_of_le {n : Nat} (short : n ≤ 2 ^ 53) : nearestNat n = n := by
  unfold nearestNat lastBit
  rcases Nat.lt_or_eq_of_le short with less | rfl
  · have whole : n.log2 - 52 = 0 := by
      by_cases pos : n = 0
      · subst pos
        rfl
      · have := (Nat.log2_lt pos).2 less
        omega
    rw [whole, Nat.pow_zero, roundDiv_one, Nat.mul_one]
  · rw [Nat.log2_two_pow]
    rfl

theorem nearestNat_bounds (n : Nat) :
    2 * n ≤ 2 * nearestNat n + lastBit n ∧ 2 * nearestNat n ≤ 2 * n + lastBit n :=
  roundDiv_mul_bounds n (Nat.two_pow_pos _)

def nearest (i : Int) : Int := if i < 0 then -(nearestNat i.natAbs : Int) else nearestNat i.natAbs

theorem lastBit_le {n k : Nat} (short : n < 2 ^ (53 + k)) : lastBit n ≤ 2 ^ k := by
  refine Nat.pow_le_pow_right Nat.two_pos ?_
  by_cases pos : n = 0
  · subst pos
    exact Nat.zero_le k
  · have := (Nat.log2_lt pos).2 short
    omega

theorem nearest_mono {i j : Int} (le : i ≤ j) : nearest i ≤ nearest j := by
  unfold nearest
  split
  · split
    · have := nearestNat_mono (m := j.natAbs) (n := i.natAbs) (by omega)
      omega
    · omega
  · rw [if_neg (by omega)]
    have := nearestNat_mono (m := i.natAbs) (n := j.natAbs) (by omega)
    omega

theorem nearest_of_natAbs_le {i : Int} (short : i.natAbs ≤ 2 ^ 53) : nearest i = i := by
  unfold nearest
  rw [nearestNat_of_le short]
  split <;> omega

/-- Of 64 bits at most eleven are rounded away. -/
theorem nearest_bounds {i : Int} (short : i.natAbs < 2 ^ 64) :
    i ≤ nearest i + 1024 ∧ nearest i ≤ i + 1024 := by
  have bounds := nearestNat_bounds i.natAbs
  have unit : lastBit i.natAbs ≤ 2 ^ 11 := lastBit_le short
  unfold nearest
  split <;> omega

end Binary64

namespace Number
open Binary64

theorem order_le_iff {i j : Int} {a : _} {b : _} :
    (int i a).order ≤ (int j b).order ↔ nearest i ≤ nearest j := by
  simp only [order, nearest]
  by_cases below : i < 0
  · by_cases other : j < 0
    · rw [if_pos below, if_pos other, if_pos below, if_pos other, Int.neg_le_neg_iff,
        Int.neg_le_neg_iff, Int.ofNat_le, Int.ofNat_le, roundedMagnitude_le_iff]
    · rw [if_pos below, if_neg other, if_pos below, if_neg other]
      omega
  · by_cases other : j < 0
    · have magnitude := roundedMagnitude_pos (n := j.natAbs) (by omega)
      have nearest := nearestNat_pos (n := j.natAbs) (by omega)
      rw [if_neg below, if_pos other, if_neg below, if_pos other]
      omega
    · rw [if_neg below, if_neg other, if_neg below, if_neg other, Int.ofNat_le, Int.ofNat_le,
        roundedMagnitude_le_iff]

end Number

end FieldMapping
