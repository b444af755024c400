import FieldMapping.Enrichment

/-! Quoted identifiers from the side of those who read them. A reader takes two quotes next
to each other for one quote of the name, and any other quote for the end. Between the outer
quotes no run of quotes is odd, so nothing in a name can be that end, and the reader has
the whole name and all that follows it. -/

namespace FieldMapping

namespace Text

def halveQuotes : List Char → List Char
  | [] => []
  | '"' :: '"' :: s => '"' :: halveQuotes s
  | c :: s => c :: halveQuotes s

theorem halveQuotes_doubleQuotes (s : List Char) : halveQuotes (doubleQuotes s) = s := by
  induction s with
  | nil => rfl
  | cons c s ih => by_cases quote : c = '"' <;> simp [doubleQuotes, halveQuotes, quote, ih]

theorem doubleQuotes_inj {s t : List Char} (same : doubleQuotes s = doubleQuotes t) : s = t := by
  have halves := congrArg halveQuotes same
  rwa [halveQuotes_doubleQuotes, halveQuotes_doubleQuotes] at halves

theorem toList_quotedIdentifier (s : String) :
    (quotedIdentifier s).toList = '"' :: doubleQuotes s.toList ++ ['"'] := by
  simp [quotedIdentifier]

theorem quotedIdentifier_inj {s t : String} (same : quotedIdentifier s = quotedIdentifier t) :
    s = t := by
  have texts := congrArg String.toList same
  simp only [toList_quotedIdentifier, List.cons_append, List.cons.injEq, true_and,
    List.append_cancel_right_eq] at texts
  exact String.toList_inj.1 (doubleQuotes_inj texts)

/-- Quotes come in pairs wherever they stand together, with other characters or nothing
on either side. -/
def PairedQuotes (s : List Char) : Prop :=
  ∀ before n after, s = before ++ List.replicate n '"' ++ after →
    before.getLast? ≠ some '"' → after.head? ≠ some '"' → n % 2 = 0

theorem pairedQuotes_nil : PairedQuotes [] := by
  intro before n after split _ _
  simp only [List.nil_eq, List.append_eq_nil_iff, List.replicate_eq_nil_iff] at split
  rw [split.1.2]

theorem PairedQuotes.cons {s : List Char} (paired : PairedQuotes s) {c : Char} (other : c ≠ '"') :
    PairedQuotes (c :: s) := by
  intro before n after split left right
  cases before with
  | nil =>
    cases n with
    | zero => rfl
    | succ n => simp [List.replicate_succ, other] at split
  | cons b before =>
    simp only [List.cons_append, List.cons.injEq] at split
    refine paired before n after split.2 (fun last => left ?_) right
    cases before with
    | nil => simp at last
    | cons d before => rwa [List.getLast?_cons_cons]

theorem PairedQuotes.pair {s : List Char} (paired : PairedQuotes s) :
    PairedQuotes ('"' :: '"' :: s) := by
  intro before n after split left right
  match before, n with
  | [], 0 => rfl
  | [], 1 =>
    simp only [List.nil_append, List.replicate_one, List.cons_append, List.cons.injEq,
      true_and] at split
    simp [← split] at right
  | [], n + 2 =>
    simp only [List.nil_append, List.replicate_succ, List.cons_append, List.cons.injEq,
      true_and] at split
    have rest : n % 2 = 0 := paired [] n after split (by simp) right
    omega
  | [b], n =>
    simp only [List.cons_append, List.cons.injEq] at split
    simp [← split.1] at left
  | b :: d :: before, n =>
    simp only [List.cons_append, List.cons.injEq] at split
    refine paired before n after split.2.2 (fun last => left ?_) right
    cases before with
    | nil => simp at last
    | cons e before => rwa [List.getLast?_cons_cons, List.getLast?_cons_cons]

theorem pairedQuotes_doubleQuotes (s : List Char) : PairedQuotes (doubleQuotes s) := by
  induction s with
  | nil => exact pairedQuotes_nil
  | cons c s ih =>
    by_cases quote : c = '"'
    · simpa [doubleQuotes, quote] using ih.pair
    · simpa [doubleQuotes, quote] using ih.cons quote

def readQuoted : List Char → Option (List Char × List Char)
  | [] => none
  | '"' :: '"' :: s => (readQuoted s).map fun r => ('"' :: r.1, r.2)
  | '"' :: s => some ([], s)
  | c :: s => (readQuoted s).map fun r => (c :: r.1, r.2)

def readIdentifier : List Char → Option (List Char × List Char)
  | '"' :: s => readQuoted s
  | _ => none

theorem readQuoted_end {after : List Char} (apart : after.head? ≠ some '"') :
    readQuoted ('"' :: after) = some ([], after) := by
  cases after with
  | nil => rfl
  | cons c after =>
    have other : c ≠ '"' := by simpa using apart
    simp [readQuoted, other]

theorem readQuoted_doubleQuotes (s : List Char) {after : List Char}
    (apart : after.head? ≠ some '"') :
    readQuoted (doubleQuotes s ++ '"' :: after) = some (s, after) := by
  induction s with
  | nil => exact readQuoted_end apart
  | cons c s ih => by_cases quote : c = '"' <;> simp [doubleQuotes, readQuoted, quote, ih]

theorem readIdentifier_quotedIdentifier (s : String) {after : List Char}
    (apart : after.head? ≠ some '"') :
    readIdentifier ((quotedIdentifier s).toList ++ after) = some (s.toList, after) := by
  rw [toList_quotedIdentifier]
  simpa [readIdentifier] using readQuoted_doubleQuotes s.toList apart

end Text

open Text

/-- A quoted alias is one identifier, closed at its end and nowhere before. -/
theorem quotedAlias_is_one_identifier (s : String) :
    (∃ inner, (quotedAlias s).toList = '"' :: inner ++ ['"'] ∧ PairedQuotes inner ∧
      halveQuotes inner = s.toList) ∧
    (∀ t, quotedAlias t = quotedAlias s → t = s) ∧
    ∀ after : List Char, after.head? ≠ some '"' →
      readIdentifier ((quotedAlias s).toList ++ after) = some (s.toList, after) := by
  refine ⟨⟨doubleQuotes s.toList, ?_, ?_, ?_⟩, ?_, ?_⟩
  · exact toList_quotedIdentifier s
  · exact pairedQuotes_doubleQuotes s.toList
  · exact halveQuotes_doubleQuotes s.toList
  · exact fun t => quotedIdentifier_inj
  · exact fun after => readIdentifier_quotedIdentifier s

theorem quotedAlias_is_one_identifier_between_quotes :
    let s := "\"p\".\"\"a\""
    let after := " FROM \"people\"".toList
    quotedAlias s = "\"\"\"p\"\".\"\"\"\"a\"\"\"" ∧ after.head? ≠ some '"' ∧
      readIdentifier ((quotedAlias s).toList ++ after) = some (s.toList, after) := by
  intro s after
  have written : quotedAlias s = "\"\"\"p\"\".\"\"\"\"a\"\"\"" := by decide +kernel
  have apart : after.head? ≠ some '"' := by decide +kernel
  exact ⟨written, apart, (quotedAlias_is_one_identifier s).2.2 after apart⟩

end FieldMapping
