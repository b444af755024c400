import FieldMapping.Text.NameCase
import Mathlib.Data.List.Basic

/-! Names part by part, compared under two ways of writing them. One way takes the words
of a name and joins them again; the other goes through the name from the left and sees of
the rest only what stands in front. The second never makes a part longer and the first
never makes one shorter, so the results are the same text exactly if they agree on every
part. -/

namespace FieldMapping.Text

section Alignment
variable {α β : Type}

theorem append_eq_append_iff_of_length_le {s t s' t' : List α} (left : t.length ≤ s.length)
    (right : t'.length ≤ s'.length) : s ++ s' = t ++ t' ↔ s = t ∧ s' = t' := by
  constructor
  · intro same
    have total := congrArg List.length same
    rw [List.length_append, List.length_append] at total
    exact List.append_inj same (by omega)
  · rintro ⟨rfl, rfl⟩
    rfl

theorem length_flatMap_le {u v : β → List α} {l : List β}
    (shorter : ∀ x ∈ l, (v x).length ≤ (u x).length) :
    (l.flatMap v).length ≤ (l.flatMap u).length := by
  induction l with
  | nil => exact Nat.le_refl 0
  | cons x l ih =>
    have first := shorter x List.mem_cons_self
    have rest := ih fun y later => shorter y (List.mem_cons_of_mem x later)
    simp only [List.flatMap_cons, List.length_append]
    omega

theorem flatMap_eq_iff_of_length_le {u v : β → List α} {l : List β}
    (shorter : ∀ x ∈ l, (v x).length ≤ (u x).length) :
    l.flatMap u = l.flatMap v ↔ ∀ x ∈ l, u x = v x := by
  induction l with
  | nil => simp
  | cons x l ih =>
    have rest : ∀ y ∈ l, (v y).length ≤ (u y).length :=
      fun y later => shorter y (List.mem_cons_of_mem x later)
    rw [List.flatMap_cons, List.flatMap_cons,
      append_eq_append_iff_of_length_le (shorter x List.mem_cons_self) (length_flatMap_le rest),
      ih rest, List.forall_mem_cons]

theorem intercalate_cons_eq_flatMap (separator s : List α) (l : List (List α)) :
    separator.intercalate (s :: l) = s ++ l.flatMap fun t => separator ++ t := by
  induction l generalizing s with
  | nil => simp
  | cons t l ih => simp [List.intercalate_cons_cons, ih]

end Alignment

theorem length_mapCase_pos {special : List (Nat × List Nat)}
    (images : special.all (fun p => 0 < p.2.length) = true) (runs : List CaseRun) (c : Char) :
    0 < (mapCase special runs c).length := by
  unfold mapCase
  split
  · next n image found =>
    have listed := List.all_eq_true.1 images _ (List.mem_of_find?_eq_some found)
    simpa using listed
  · split <;> simp

theorem length_upper_pos (c : Char) : 0 < (upper c).length :=
  length_mapCase_pos (by decide) upperRuns c

theorem length_lower_pos (c : Char) : 0 < (lower c).length :=
  length_mapCase_pos (by decide) lowerRuns c

theorem length_le_lowerAfter (before s : List Char) :
    s.length ≤ (lowerAfter before s).length := by
  induction s generalizing before with
  | nil => exact Nat.le_refl 0
  | cons c s ih =>
    have rest := ih (c :: before)
    have first : 0 < (if c = 'Σ' then
        (if casedNext before && !casedNext s then ['ς'] else ['σ']) else lower c).length := by
      split
      · split <;> exact Nat.one_pos
      · exact length_lower_pos c
    rw [lowerAfter, List.length_append, List.length_cons]
    omega

theorem length_le_lowerText (s : List Char) : s.length ≤ (lowerText s).length :=
  length_le_lowerAfter [] s

theorem length_le_upperText (s : List Char) : s.length ≤ (upperText s).length := by
  induction s with
  | nil => exact Nat.le_refl 0
  | cons c s ih =>
    have first := length_upper_pos c
    rw [upperText, List.flatMap_cons, List.length_append, List.length_cons]
    unfold upperText at ih
    omega

theorem length_le_capitalize (s : List Char) : s.length ≤ (capitalize s).length := by
  cases s with
  | nil => exact Nat.le_refl 0
  | cons c s =>
    have first := length_upper_pos c
    have rest := length_le_lowerText s
    rw [capitalize, List.length_append, List.length_cons]
    omega

/-- A word begins in front of everything, behind an underscore, or where the case or the
digits change. -/
inductive Start where
  | front | underscore | change
deriving DecidableEq

def Start.gap : Start → List Char
  | underscore => ['_']
  | front | change => []

structure Part where
  start : Start
  before : List Char
  word : List Char

def partsAfter (start : Start) (before word : List Char) : List Cluster → List Part
  | [] => [⟨start, before, word⟩]
  | g :: rest =>
    if g = ['_'] then
      ⟨start, before, word⟩ :: partsAfter .underscore (before ++ (start.gap ++ word)) [] rest
    else if endsWord g rest then
      ⟨start, before, word ++ g⟩ ::
        partsAfter .change (before ++ (start.gap ++ (word ++ g))) [] rest
    else partsAfter start before (word ++ g) rest

def parts (s : List Char) : List Part := partsAfter .front [] [] (clusters s)

theorem exists_later_parts (start : Start) (before word : List Char) (gs : List Cluster) :
    ∃ w later, partsAfter start before word gs = ⟨start, before, w⟩ :: later ∧
      wordsAfter word gs = w :: later.map Part.word ∧ ∀ p ∈ later, p.start ≠ .front := by
  induction gs generalizing start before word with
  | nil => exact ⟨word, [], rfl, rfl, by simp⟩
  | cons g rest ih =>
    rw [partsAfter, wordsAfter]
    by_cases bar : g = ['_']
    · obtain ⟨w, later, parted, worded, behind⟩ :=
        ih .underscore (before ++ (start.gap ++ word)) []
      refine ⟨word, ⟨.underscore, _, w⟩ :: later, by rw [if_pos bar, parted],
        by rw [if_pos bar, worded]; rfl, ?_⟩
      simpa using behind
    · by_cases ended : endsWord g rest = true
      · obtain ⟨w, later, parted, worded, behind⟩ :=
          ih .change (before ++ (start.gap ++ (word ++ g))) []
        refine ⟨word ++ g, ⟨.change, _, w⟩ :: later, by rw [if_neg bar, if_pos ended, parted],
          by rw [if_neg bar, if_pos ended, worded]; rfl, ?_⟩
        simpa using behind
      · rw [if_neg bar, if_neg ended, if_neg bar, if_neg ended]
        exact ih start before (word ++ g)

namespace NameCase

def between (c : NameCase) : Start → List Char
  | .front => []
  | _ => c.separator

def writeWord (c : NameCase) (start : Start) (w : List Char) : List Char :=
  match c with
  | lowercase | snake | kebab => lowerText w
  | uppercase | screamingSnake | screamingKebab => upperText w
  | pascal => capitalize w
  | camel => if start = .front then lowerText w else capitalize w

theorem length_le_writeWord (c : NameCase) (start : Start) (w : List Char) :
    w.length ≤ (c.writeWord start w).length := by
  have lower := length_le_lowerText w
  have upper := length_le_upperText w
  have capital := length_le_capitalize w
  cases c <;> simp only [writeWord] <;> try assumption
  split <;> assumption

theorem writeWord_of_later (c : NameCase) {start : Start} (later : start ≠ .front)
    (w : List Char) : c.writeWord start w = c.writeWord .change w := by
  cases c <;> simp [writeWord, later]

theorem writeWords_cons (c : NameCase) (w : List Char) (ws : List (List Char)) :
    c.writeWords (w :: ws) = c.writeWord .front w :: ws.map (c.writeWord .change) := by
  cases c <;> rfl

theorem intercalate_writeWords (c : NameCase) (s : List Char) :
    c.separator.intercalate (c.writeWords (words s)) =
      (parts s).flatMap fun p => c.between p.start ++ c.writeWord p.start p.word := by
  obtain ⟨w, later, parted, worded, behind⟩ := exists_later_parts .front [] [] (clusters s)
  have rest : (later.map fun p => c.writeWord .change p.word).flatMap (c.separator ++ ·) =
      later.flatMap fun p => c.between p.start ++ c.writeWord p.start p.word := by
    rw [List.flatMap_map]
    refine List.flatMap_congr fun p listed => ?_
    rw [c.writeWord_of_later (behind p listed)]
    cases start : p.start with
    | front => exact absurd start (behind p listed)
    | underscore => rfl
    | change => rfl
  rw [words, worded, writeWords_cons, intercalate_cons_eq_flatMap, List.map_map, parts, parted,
    List.flatMap_cons]
  exact congrArg (c.writeWord .front w ++ ·) rest

/-- A rule for keys looks at one character after the other. Where underscores go away, a
capital follows them and begins the whole, unless the rule wants it small there. -/
def keyChar (c : NameCase) (before : List Char) (x : Char) : List Char :=
  match c with
  | lowercase | snake => [x]
  | uppercase | screamingSnake => [x.toUpper]
  | kebab => [if x = '_' then '-' else x]
  | screamingKebab => [if x = '_' then '-' else x.toUpper]
  | pascal =>
    if x = '_' then [] else if before.getLast?.all (· = '_') then [x.toUpper] else [x]
  | camel =>
    if x = '_' then []
    else if before.all (· = '_') then [x.toUpper.toLower]
    else if before.getLast?.all (· = '_') then [x.toUpper]
    else [x]

def keyAfter (c : NameCase) (before : List Char) : List Char → List Char
  | [] => []
  | x :: s => c.keyChar before x ++ c.keyAfter (before ++ [x]) s

theorem keyAfter_append (c : NameCase) (before s t : List Char) :
    c.keyAfter before (s ++ t) = c.keyAfter before s ++ c.keyAfter (before ++ s) t := by
  induction s generalizing before with
  | nil => simp [keyAfter]
  | cons x s ih => simp [keyAfter, ih]

theorem length_keyChar_le (c : NameCase) (before : List Char) (x : Char) :
    (c.keyChar before x).length ≤ 1 := by
  cases c <;> simp only [keyChar] <;> (repeat' split) <;> simp

theorem length_keyAfter_le (c : NameCase) (before s : List Char) :
    (c.keyAfter before s).length ≤ s.length := by
  induction s generalizing before with
  | nil => exact Nat.le_refl 0
  | cons x s ih =>
    have first := c.length_keyChar_le before x
    have rest := ih (before ++ [x])
    rw [keyAfter, List.length_append, List.length_cons]
    omega

theorem length_keyAfter_gap_le (c : NameCase) (before : List Char) (start : Start) :
    (c.keyAfter before start.gap).length ≤ (c.between start).length := by
  cases start with
  | underscore => cases c <;> exact Nat.le_refl _
  | _ => exact Nat.zero_le _

theorem keyAfter_partsAfter (c : NameCase) (start : Start) (before word : List Char)
    (gs : List Cluster) :
    c.keyAfter before (start.gap ++ (word ++ gs.flatten)) =
      (partsAfter start before word gs).flatMap fun p =>
        c.keyAfter p.before (p.start.gap ++ p.word) := by
  induction gs generalizing start before word with
  | nil => simp [partsAfter]
  | cons g rest ih =>
    rw [partsAfter]
    by_cases bar : g = ['_']
    · rw [if_pos bar, List.flatMap_cons, ← ih, ← keyAfter_append, bar]
      simp [Start.gap]
    · by_cases ended : endsWord g rest = true
      · rw [if_neg bar, if_pos ended, List.flatMap_cons, ← ih, ← keyAfter_append]
        simp [Start.gap]
      · rw [if_neg bar, if_neg ended, ← ih]
        simp

def AgreesOn (c : NameCase) (p : Part) : Prop :=
  c.between p.start = c.keyAfter p.before p.start.gap ∧
    c.writeWord p.start p.word = c.keyAfter (p.before ++ p.start.gap) p.word

instance (c : NameCase) (p : Part) : Decidable (c.AgreesOn p) := instDecidableAnd

theorem intercalate_eq_keyAfter_iff (c : NameCase) (s : List Char) :
    c.separator.intercalate (c.writeWords (words s)) = c.keyAfter [] s ↔
      ∀ p ∈ parts s, c.AgreesOn p := by
  have key : c.keyAfter [] s =
      (parts s).flatMap fun p => c.keyAfter p.before (p.start.gap ++ p.word) := by
    have whole := c.keyAfter_partsAfter .front [] [] (clusters s)
    rwa [flatten_clusters] at whole
  have gaps := fun p : Part => c.length_keyAfter_gap_le p.before p.start
  have words := fun p : Part => Nat.le_trans
    (c.length_keyAfter_le (p.before ++ p.start.gap) p.word) (c.length_le_writeWord p.start p.word)
  rw [intercalate_writeWords, key, flatMap_eq_iff_of_length_le]
  · refine forall₂_congr fun p _ => ?_
    rw [keyAfter_append, append_eq_append_iff_of_length_le (gaps p) (words p), AgreesOn]
  · intro p _
    have gap := gaps p
    have word := words p
    rw [keyAfter_append, List.length_append, List.length_append]
    omega

/-- A word that begins with a capital of its own needs no underscore before it. -/
example : ∀ p ∈ parts "ioError".toList, pascal.AgreesOn p := by decide +kernel

end NameCase

end FieldMapping.Text
