/-! Decimal digits of natural numbers, most significant first.
Reading accepts leading zeros; writing makes none. -/

namespace FieldMapping.Text

def isDigit (c : Char) : Bool := '0' ≤ c && c ≤ '9'

theorem isDigit_bounds {c : Char} (digit : isDigit c = true) : 48 ≤ c.toNat ∧ c.toNat ≤ 57 := by
  simpa [isDigit, Char.le_def, UInt32.le_iff_toNat_le] using digit

def digitValue (c : Char) : Nat := c.toNat - '0'.toNat

def digitChar (d : Nat) : Char := Char.ofNat ('0'.toNat + d % 10)

theorem isDigit_digitChar (d : Nat) : isDigit (digitChar d) = true := by
  have all : ∀ n : Fin 10, isDigit (Char.ofNat (48 + n.val)) = true := by decide
  exact all ⟨d % 10, Nat.mod_lt _ (by decide)⟩

theorem digitValue_digitChar (d : Nat) : digitValue (digitChar d) = d % 10 := by
  have all : ∀ n : Fin 10, digitValue (Char.ofNat (48 + n.val)) = n.val := by decide
  exact all ⟨d % 10, Nat.mod_lt _ (by decide)⟩

def valueOf (s : List Char) : Nat := s.foldl (fun n c => 10 * n + digitValue c) 0

@[simp] theorem valueOf_nil : valueOf [] = 0 := rfl

@[simp] theorem valueOf_append_singleton (s : List Char) (c : Char) :
    valueOf (s ++ [c]) = 10 * valueOf s + digitValue c := by
  simp [valueOf]

def digits (n : Nat) : List Char :=
  if n < 10 then [digitChar n] else digits (n / 10) ++ [digitChar n]
termination_by n
decreasing_by omega

theorem valueOf_digits (n : Nat) : valueOf (digits n) = n := by
  induction n using digits.induct with
  | case1 n h =>
    rw [digits, if_pos h]
    simp [valueOf, digitValue_digitChar, Nat.mod_eq_of_lt h]
  | case2 n h ih =>
    rw [digits, if_neg h, valueOf_append_singleton, ih, digitValue_digitChar]
    omega

theorem all_isDigit_digits (n : Nat) : (digits n).all isDigit = true := by
  induction n using digits.induct with
  | case1 n h => simp [digits, h, isDigit_digitChar]
  | case2 n h ih => rw [digits, if_neg h]; simp_all [isDigit_digitChar]

theorem digits_ne_nil (n : Nat) : digits n ≠ [] := by
  rw [digits]
  split <;> simp

def padded (width n : Nat) : List Char :=
  List.replicate (width - (digits n).length) '0' ++ digits n

def splitDigits (s : List Char) : List Char × List Char :=
  (s.takeWhile isDigit, s.dropWhile isDigit)

def ofNat (n : Nat) : String := String.ofList (digits n)

def ofInt (i : Int) : String :=
  String.ofList (if i < 0 then '-' :: digits i.natAbs else digits i.natAbs)

end FieldMapping.Text
