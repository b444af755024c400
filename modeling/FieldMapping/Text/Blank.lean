/-! White space, as the Unicode property of that name has it.
Trimming takes it off both ends and touches nothing between them. -/

namespace FieldMapping.Text

/-- Every character of the property lies in one of these closed ranges. -/
def blankRanges : List (Nat × Nat) :=
  [(0x09, 0x0D), (0x20, 0x20), (0x85, 0x85), (0xA0, 0xA0), (0x1680, 0x1680),
   (0x2000, 0x200A), (0x2028, 0x2029), (0x202F, 0x202F), (0x205F, 0x205F), (0x3000, 0x3000)]

def inRanges (ranges : List (Nat × Nat)) (c : Char) : Bool :=
  ranges.any fun r => r.1 ≤ c.toNat && c.toNat ≤ r.2

def isBlank (c : Char) : Bool := inRanges blankRanges c

def trimLeft (s : List Char) : List Char := s.dropWhile isBlank

def trim (s : List Char) : List Char := (trimLeft (trimLeft s).reverse).reverse

def allBlank (s : String) : Bool := s.toList.all isBlank

theorem all_trimLeft (s : List Char) : (trimLeft s).all isBlank = s.all isBlank := by
  induction s with
  | nil => rfl
  | cons c s ih =>
    by_cases h : isBlank c = true
    · simp_all [trimLeft]
    · simp [trimLeft, h]

theorem trimLeft_eq_nil_iff {s : List Char} : trimLeft s = [] ↔ s.all isBlank = true := by
  induction s with
  | nil => simp [trimLeft]
  | cons c s ih =>
    by_cases h : isBlank c = true
    · simp_all [trimLeft]
    · simp [trimLeft, h]

theorem trim_eq_nil_iff {s : List Char} : trim s = [] ↔ s.all isBlank = true := by
  rw [trim, List.reverse_eq_nil_iff, trimLeft_eq_nil_iff, List.all_reverse, all_trimLeft]

theorem trimLeft_append_of_blank {l : List Char} (blank : l.all isBlank = true) (s : List Char) :
    trimLeft (l ++ s) = trimLeft s :=
  List.dropWhile_append_of_pos (List.all_eq_true.1 blank)

theorem trimLeft_append_of_solid {s : List Char} (nonempty : s ≠ [])
    (solid : ∀ c ∈ s, isBlank c = false) (r : List Char) : trimLeft (s ++ r) = s ++ r := by
  cases s with
  | nil => exact absurd rfl nonempty
  | cons c s => simp [trimLeft, solid c List.mem_cons_self]

theorem trim_pad {l s r : List Char} (left : l.all isBlank = true) (right : r.all isBlank = true)
    (nonempty : s ≠ []) (solid : ∀ c ∈ s, isBlank c = false) : trim (l ++ s ++ r) = s := by
  have backwards : trimLeft s.reverse = s.reverse := by
    have behind := trimLeft_append_of_solid (s := s.reverse) (by simpa using nonempty)
      (fun c hc => solid c (List.mem_reverse.1 hc)) []
    rwa [List.append_nil] at behind
  rw [trim, List.append_assoc, trimLeft_append_of_blank left,
    trimLeft_append_of_solid nonempty solid, List.reverse_append,
    trimLeft_append_of_blank (by rwa [List.all_reverse]), backwards, List.reverse_reverse]

theorem trim_of_solid_ends {s r : List Char} (front : s ≠ [] ∧ ∀ c ∈ s, isBlank c = false)
    (back : r ≠ [] ∧ ∀ c ∈ r, isBlank c = false) (middle : List Char) :
    trim (s ++ (middle ++ r)) = s ++ (middle ++ r) := by
  have backwards : (s ++ (middle ++ r)).reverse = r.reverse ++ (s ++ middle).reverse := by simp
  have hard : ∀ c ∈ r.reverse, isBlank c = false := fun c hc => back.2 c (List.mem_reverse.1 hc)
  rw [trim, trimLeft_append_of_solid front.1 front.2, backwards,
    trimLeft_append_of_solid (by simpa using back.1) hard, ← backwards, List.reverse_reverse]

end FieldMapping.Text
