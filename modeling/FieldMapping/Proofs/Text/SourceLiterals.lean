import FieldMapping.Text.Digits
import FieldMapping.Text.Literal
import Mathlib.Data.Nat.Digits.Defs

/-! Literals in source text from the side of those who read them. An escape stands for one
character, and what is no escape stands for itself. Whatever a text holds, its literal is
read as this text. -/

namespace FieldMapping.Text

section Hexadecimal

def hexValue (c : Char) : Nat :=
  if isDigit c then digitValue c else c.toNat - 'a'.toNat + 10

def unhex (n : Nat) (s : List Char) : Nat := s.foldl (fun n c => 16 * n + hexValue c) n

theorem unhex_append_singleton (n : Nat) (s : List Char) (c : Char) :
    unhex n (s ++ [c]) = 16 * unhex n s + hexValue c := by
  simp [unhex]

theorem hexValue_digitChar {d : Nat} (small : d < 16) : hexValue d.digitChar = d := by
  have all : ∀ n : Fin 16, hexValue n.val.digitChar = n.val := by decide
  exact all ⟨d, small⟩

theorem digitChar_ne_brace {d : Nat} (small : d < 16) : d.digitChar ≠ '\x7d' := by
  have all : ∀ n : Fin 16, n.val.digitChar ≠ '\x7d' := by decide
  exact all ⟨d, small⟩

theorem unhex_toDigits (n : Nat) : unhex 0 (Nat.toDigits 16 n) = n := by
  induction n using Nat.strongRecOn with
  | ind n ih =>
    by_cases small : n < 16
    · rw [Nat.toDigits_of_lt_base small]
      simp [unhex, hexValue_digitChar small]
    · rw [Nat.toDigits_of_base_le (by decide) (by omega), unhex_append_singleton,
        ih (n / 16) (by omega), hexValue_digitChar (Nat.mod_lt n (by decide))]
      omega

theorem brace_not_mem_toDigits (n : Nat) : '\x7d' ∉ Nat.toDigits 16 n := by
  induction n using Nat.strongRecOn with
  | ind n ih =>
    by_cases small : n < 16
    · rw [Nat.toDigits_of_lt_base small, List.mem_singleton]
      exact (digitChar_ne_brace small).symm
    · have last : n % 16 < 16 := Nat.mod_lt n (by decide)
      rw [Nat.toDigits_of_base_le (by decide) (by omega), List.mem_append, List.mem_singleton]
      rintro (front | same)
      · exact ih (n / 16) (by omega) front
      · exact digitChar_ne_brace last same.symm

end Hexadecimal

/-- The text in front of the closing quote, which must come last. Inside the braces of an
escape, the digits so far have made a number. -/
def unescape : Option Nat → List Char → Option (List Char)
  | none, ['"'] => some []
  | none, '\\' :: '"' :: s => (unescape none s).map ('"' :: ·)
  | none, '\\' :: '\\' :: s => (unescape none s).map ('\\' :: ·)
  | none, '\\' :: 'n' :: s => (unescape none s).map ('\n' :: ·)
  | none, '\\' :: 'r' :: s => (unescape none s).map ('\r' :: ·)
  | none, '\\' :: 't' :: s => (unescape none s).map ('\t' :: ·)
  | none, '\\' :: '0' :: s => (unescape none s).map ('\x00' :: ·)
  | none, '\\' :: 'x' :: a :: b :: s => (unescape none s).map (Char.ofNat (unhex 0 [a, b]) :: ·)
  | none, '\\' :: 'u' :: '\x7b' :: s => unescape (some 0) s
  | none, c :: s => if c = '"' ∨ c = '\\' then none else (unescape none s).map (c :: ·)
  | some n, '\x7d' :: s => (unescape none s).map (Char.ofNat n :: ·)
  | some n, c :: s => unescape (some (16 * n + hexValue c)) s
  | _, [] => none

def unquoted? (s : String) : Option String :=
  match s.toList with
  | '"' :: t => (unescape none t).map String.ofList
  | _ => none

theorem unescape_digits {digits : List Char} (closing : '\x7d' ∉ digits) (n : Nat)
    (s : List Char) : unescape (some n) (digits ++ '\x7d' :: s) =
      (unescape none s).map (Char.ofNat (unhex n digits) :: ·) := by
  induction digits generalizing n with
  | nil => rfl
  | cons c digits ih =>
    obtain ⟨other, closing⟩ := List.ne_and_not_mem_of_not_mem_cons closing
    rw [List.cons_append, unescape, ih closing]
    · rfl
    · exact other.symm

theorem unescape_plain {c : Char} (quote : c ≠ '"') (slash : c ≠ '\\') (s : List Char) :
    unescape none (c :: s) = (unescape none s).map (c :: ·) := by
  rw [unescape, if_neg (by simp [quote, slash])]
  all_goals grind

theorem unescape_codePoint (c : Char) (s : List Char) :
    unescape none (codePoint c ++ s) = (unescape none s).map (c :: ·) := by
  have digits := unescape_digits (brace_not_mem_toDigits c.toNat) 0 s
  rw [unhex_toDigits, Char.ofNat_toNat] at digits
  simpa [codePoint, unescape] using digits

theorem unescape_escape (c : Char) (s : List Char) :
    unescape none (escape c ++ s) = (unescape none s).map (c :: ·) := by
  unfold escape
  split_ifs with quote slash newline back tab zero unprinted
  · rw [quote]; rfl
  · rw [slash]; rfl
  · rw [newline]; rfl
  · rw [back]; rfl
  · rw [tab]; rfl
  · rw [zero]; rfl
  · exact unescape_codePoint c s
  · exact unescape_plain quote slash s

theorem unescape_escapeSource (s : List Char) :
    unescape none (escapeSource s ++ ['"']) = some s := by
  induction s with
  | nil => rfl
  | cons c s ih =>
    rw [escapeSource, List.append_assoc]
    split
    · next zero =>
      rw [zero.1]
      change (unescape none (escapeSource s ++ ['"'])).map _ = _
      rw [ih]
      rfl
    · rw [unescape_escape, ih]
      rfl

theorem unquoted?_sourceLiteral (s : String) : unquoted? (sourceLiteral s) = some s := by
  simp [unquoted?, sourceLiteral, unescape_escapeSource]

end FieldMapping.Text
