import FieldMapping.Proofs.Text.NameParts
import Mathlib.Data.List.Chain

/-! Names of small letters, digits and underscores, as most are. Their words end at
underscores and where a letter meets a digit, and nowhere else, so a look at the name
tells which rules for keys it agrees with. -/

namespace FieldMapping.Text

def isPlain (x : Char) : Bool := x == '_' || isDigit x || x.isLower

def mixed (x y : Char) : Bool := (x.isLower && isDigit y) || (isDigit x && y.isLower)

section Characters
variable {x y : Char} {s : List Char}

theorem toNat_lt_of_isPlain (plain : isPlain x = true) : x.toNat < 128 := by
  simp only [isPlain, isDigit, Bool.or_eq_true, Bool.and_eq_true, beq_iff_eq,
    decide_eq_true_eq] at plain
  rcases plain with (bar | ⟨-, digit⟩) | letter
  · rw [bar]
    decide
  · exact Nat.lt_of_le_of_lt digit (by decide)
  · have high : x.val ≤ 'z'.val := of_decide_eq_true (Bool.and_eq_true_iff.1 letter).2
    exact Nat.lt_of_le_of_lt high (by decide)

theorem of_isPlain {P : Char → Prop}
    (all : ∀ n : Fin 128, isPlain (Char.ofNat n.val) = true → P (Char.ofNat n.val))
    (plain : isPlain x = true) : P x := by
  have here := all ⟨x.toNat, toNat_lt_of_isPlain plain⟩
  simp only [Char.ofNat_toNat] at here
  exact here plain

theorem lower_of_isPlain (plain : isPlain x = true) : lower x = [x] :=
  of_isPlain (P := fun x => lower x = [x]) (by decide +kernel) plain

theorem upper_of_isPlain (plain : isPlain x = true) : upper x = [x.toUpper] :=
  of_isPlain (P := fun x => upper x = [x.toUpper]) (by decide +kernel) plain

theorem toLower_toUpper_of_isPlain (plain : isPlain x = true) : x.toUpper.toLower = x :=
  of_isPlain (P := fun x => x.toUpper.toLower = x) (by decide +kernel) plain

theorem toUpper_eq_iff_of_isPlain (plain : isPlain x = true) :
    x.toUpper = x ↔ x.isLower = false :=
  of_isPlain (P := fun x => x.toUpper = x ↔ x.isLower = false) (by decide +kernel) plain

theorem inRanges_of_isPlain {ranges : List (Nat × Nat)}
    (high : ranges.all (fun r => 128 ≤ r.1) = true) (plain : isPlain x = true) :
    inRanges ranges x = false := by
  have small := toNat_lt_of_isPlain plain
  rw [inRanges, List.any_eq_false]
  intro r listed
  have above : 128 ≤ r.1 := by simpa using List.all_eq_true.1 high r listed
  simp only [Bool.and_eq_true, decide_eq_true_eq]
  omega

theorem isLower_of_isDigit (digit : isDigit x = true) : x.isLower = false := by
  have plain : isPlain x = true := by simp [isPlain, digit]
  exact of_isPlain (P := fun x => isDigit x = true → x.isLower = false) (by decide) plain digit

theorem mixed_and_isLower_iff :
    (mixed x y = true ∧ y.isLower = true) ↔ (isDigit x = true ∧ y.isLower = true) := by
  cases digit : isDigit y with
  | false => simp [mixed, digit]
  | true => simp [isLower_of_isDigit digit]

end Characters

/-- Only plain characters, of which every one is a cluster of its own. -/
def Plain (s : List Char) : Prop := ∀ x ∈ s, isPlain x = true

instance (s : List Char) : Decidable (Plain s) :=
  List.decidableBAll (fun x => isPlain x = true) s

namespace Plain
variable {x y : Char} {s t w : List Char}

theorem of_cons (plain : Plain (x :: s)) : isPlain x = true ∧ Plain s :=
  List.forall_mem_cons.1 plain

theorem append (left : Plain s) (right : Plain t) : Plain (s ++ t) :=
  List.forall_mem_append.2 ⟨left, right⟩

theorem clusters_eq (plain : Plain s) : clusters s = s.map fun x => [x] := by
  induction s with
  | nil => rfl
  | cons x s ih =>
    rw [clusters, ih plain.of_cons.2]
    cases s with
    | nil => rfl
    | cons y s =>
      have leading : isLeading x = false := inRanges_of_isPlain (by decide) plain.of_cons.1
      have trailing : isTrailing y = false := by
        have here := plain.of_cons.2.of_cons.1
        rw [isTrailing, isExtending, inRanges_of_isPlain (by decide +kernel) here,
          inRanges_of_isPlain (by decide +kernel) here]
        rfl
      simp [leading, trailing]

theorem lowerText_eq (plain : Plain w) : lowerText w = w := by
  have whole : ∀ before, lowerAfter before w = w := by
    induction w with
    | nil => exact fun _ => rfl
    | cons x w ih =>
      intro before
      have sigma : x ≠ 'Σ' := by
        rintro rfl
        exact absurd plain.of_cons.1 (by decide)
      rw [lowerAfter, if_neg sigma, lower_of_isPlain plain.of_cons.1, ih plain.of_cons.2]
      rfl
  exact whole []

theorem upperText_eq (plain : Plain w) : upperText w = w.map Char.toUpper := by
  induction w with
  | nil => rfl
  | cons x w ih =>
    have rest : upperText w = w.map Char.toUpper := ih plain.of_cons.2
    rw [upperText, List.flatMap_cons, upper_of_isPlain plain.of_cons.1, ← upperText, rest]
    rfl

theorem capitalize_cons (plain : Plain (x :: w)) : capitalize (x :: w) = x.toUpper :: w := by
  rw [capitalize, upper_of_isPlain plain.of_cons.1, lowerText_eq plain.of_cons.2]
  rfl

end Plain

theorem Plain.isUpper_singleton {x : Char} (plain : Plain [x]) : Cluster.isUpper [x] = false := by
  rw [Cluster.isUpper, plain.lowerText_eq, plain.upperText_eq]
  simp

theorem Plain.isLower_singleton {x : Char} (plain : Plain [x]) :
    Cluster.isLower [x] = x.isLower := by
  have changed := toUpper_eq_iff_of_isPlain plain.of_cons.1
  rw [Cluster.isLower, plain.lowerText_eq, plain.upperText_eq]
  by_cases fixed : x.toUpper = x
  · simp [fixed, changed.1 fixed]
  · have letter : x.isLower = true := by simpa using fun dull => fixed (changed.2 dull)
    simp [fixed, letter]

theorem Plain.endsWord_eq {x : Char} {s : List Char} (plain : Plain (x :: s)) :
    endsWord [x] (s.map fun x => [x]) = s.head?.any (mixed x) := by
  cases s with
  | nil => rfl
  | cons y s =>
    have here : Plain [x] := by simpa [Plain] using plain.of_cons.1
    have next : Plain [y] := by simpa [Plain] using plain.of_cons.2.of_cons.1
    simp [endsWord, mixed, Cluster.isCasedLetter, Cluster.isDigits, here.isUpper_singleton,
      here.isLower_singleton, next.isUpper_singleton, next.isLower_singleton]

def first (s : List Char) : Option Char := s.head?.filter (· ≠ '_')

structure Part.Plain (p : Part) : Prop where
  word : Text.Plain p.word
  bare : '_' ∉ p.word
  front : p.start = .front → p.before = []
  inside : p.start = .change → p.before.getLast?.all (· = '_') = false

theorem plain_of_mem_partsAfter {start : Start} {before word s : List Char} (plain : Plain s)
    (begun : Part.Plain ⟨start, before, word⟩) :
    ∀ p ∈ partsAfter start before word (s.map fun x => [x]), p.Plain := by
  induction s generalizing start before word with
  | nil => simpa [partsAfter] using begun
  | cons x s ih =>
    have here : Plain [x] := by simpa [Plain] using plain.of_cons.1
    rw [List.map_cons, partsAfter]
    by_cases bar : x = '_'
    · rw [if_pos (by rw [bar]), List.forall_mem_cons]
      refine ⟨begun, ih plain.of_cons.2 ⟨?_, ?_, ?_, ?_⟩⟩ <;> simp [Plain]
    · have longer : Part.Plain ⟨start, before, word ++ [x]⟩ :=
        ⟨begun.word.append here, by simpa [begun.bare] using Ne.symm bar, begun.front, begun.inside⟩
      rw [if_neg (by simpa using bar)]
      split
      · rw [List.forall_mem_cons]
        refine ⟨longer, ih plain.of_cons.2 ⟨?_, ?_, ?_, ?_⟩⟩ <;> simp [Plain, bar]
      · exact ih plain.of_cons.2 longer

/-- What is asked of a word, by how it starts, the text before it and its first character,
is asked of every word that begins behind the front of `s`. -/
def Begins (ask : Start → List Char → Option Char → Prop) (before : List Char) :
    List Char → Prop
  | [] => True
  | x :: s =>
    (x = '_' → ask .underscore before (first s)) ∧
      (∀ y ∈ s.head?, mixed x y = true → ask .change (before ++ [x]) (some y)) ∧
      Begins ask (before ++ [x]) s

section Beginnings
variable {ask : Start → List Char → Option Char → Prop} {before word s : List Char}

@[simp] theorem first_nil : first [] = none := rfl

theorem first_append (bare : '_' ∉ word) (s : List Char) :
    first (word ++ s) = word.head?.or (first s) := by
  cases word with
  | nil => rfl
  | cons x word =>
    have letter : x ≠ '_' := (List.ne_of_not_mem_cons bare).symm
    simp [first, letter]

theorem mixed_bar (y : Char) : mixed '_' y = false := by
  have letter : '_'.isLower = false := by decide
  have digit : isDigit '_' = false := by decide
  simp [mixed, letter, digit]

theorem ne_bar_of_mixed {x y : Char} (meet : mixed x y = true) : y ≠ '_' := by
  rintro rfl
  have letter : '_'.isLower = false := by decide
  have digit : isDigit '_' = false := by decide
  simp [mixed, letter, digit] at meet

theorem forall_partsAfter_iff (start : Start) (before : List Char) (bare : '_' ∉ word)
    (plain : Plain s) :
    (∀ p ∈ partsAfter start before word (s.map fun x => [x]),
      ask p.start p.before p.word.head?) ↔
      ask start before (first (word ++ s)) ∧
        Begins ask (before ++ (start.gap ++ word)) s := by
  induction s generalizing start before word with
  | nil => rw [first_append bare]; simp [partsAfter, Begins]
  | cons x s ih =>
    have rest := plain.of_cons.2
    have nothing : '_' ∉ ([] : List Char) := List.not_mem_nil
    rw [List.map_cons, partsAfter, plain.endsWord_eq, Begins]
    by_cases bar : x = '_'
    · subst bar
      have gone : first ('_' :: s) = none := rfl
      rw [if_pos rfl, List.forall_mem_cons, ih _ _ nothing rest, first_append bare, gone]
      simp [Start.gap, mixed_bar]
    · have longer : '_' ∉ word ++ [x] := by simpa [bare] using Ne.symm bar
      have whole : first (word ++ x :: s) = (word ++ [x]).head? := by
        rw [List.append_cons, first_append longer]
        cases word <;> rfl
      rw [if_neg (by simpa using bar)]
      by_cases ended : s.head?.any (mixed x) = true
      · obtain ⟨y, next, meet⟩ : ∃ y, s.head? = some y ∧ mixed x y = true := by
          simpa [Option.any_eq_true] using ended
        have behind : first s = some y := by simp [first, next, ne_bar_of_mixed meet]
        rw [if_pos ended, List.forall_mem_cons, ih _ _ nothing rest, whole]
        simp [bar, next, meet, behind, Start.gap]
      · have unmixed : ∀ y ∈ s.head?, ¬ mixed x y = true := by
          simpa [Option.any_eq_true] using ended
        rw [if_neg ended, ih _ _ longer rest, ← List.append_cons]
        constructor
        · rintro ⟨front, later⟩
          exact ⟨front, fun same => absurd same bar, fun y next meet => absurd meet (unmixed y next),
            by simpa using later⟩
        · rintro ⟨front, -, -, later⟩
          exact ⟨front, by simpa using later⟩

end Beginnings

namespace NameCase
variable {c : NameCase} {before s w : List Char} {x : Char} {p : Part}

def Asks (c : NameCase) (start : Start) (before : List Char) (x : Option Char) : Prop :=
  match c with
  | lowercase | uppercase => start = .front
  | snake | screamingSnake | kebab | screamingKebab => start ≠ .change
  | pascal => start = .change → x.any Char.isLower = false
  | camel =>
    start = .change ∨ start = .underscore ∧ before.all (· = '_') = true →
      x.any Char.isLower = false

def Suits (c : NameCase) (s : List Char) : Prop :=
  match c with
  | lowercase | uppercase => '_' ∉ s ∧ s.IsChain fun x y => mixed x y = false
  | snake | screamingSnake | kebab | screamingKebab => s.IsChain fun x y => mixed x y = false
  | pascal => s.IsChain fun x y => ¬ (isDigit x = true ∧ y.isLower = true)
  | camel =>
    (s.IsChain fun x y => ¬ (isDigit x = true ∧ y.isLower = true)) ∧
      (s.head? = some '_' → (s.dropWhile (· = '_')).head?.any Char.isLower = false)

instance (c : NameCase) (s : List Char) : Decidable (c.Suits s) :=
  match c with
  | lowercase | uppercase => instDecidableAnd
  | snake | screamingSnake | kebab | screamingKebab =>
    inferInstanceAs (Decidable (s.IsChain fun x y => mixed x y = false))
  | pascal =>
    inferInstanceAs (Decidable (s.IsChain fun x y => ¬ (isDigit x = true ∧ y.isLower = true)))
  | camel => instDecidableAnd

theorem begins_front_iff :
    Begins (fun start _ _ => start = .front) before s ↔
      '_' ∉ s ∧ s.IsChain fun x y => mixed x y = false := by
  induction s generalizing before with
  | nil => simp [Begins]
  | cons x s ih =>
    simp only [Begins, ih, List.isChain_cons, List.mem_cons, not_or]
    grind

theorem begins_unchanged_iff :
    Begins (fun start _ _ => start ≠ .change) before s ↔
      s.IsChain fun x y => mixed x y = false := by
  induction s generalizing before with
  | nil => simp [Begins]
  | cons x s ih => simp [Begins, ih, List.isChain_cons]

theorem begins_pascal_iff :
    Begins (pascal.Asks) before s ↔ pascal.Suits s := by
  induction s generalizing before with
  | nil => simp [Begins, Suits]
  | cons x s ih =>
    simp [Begins, ih, Suits, Asks, List.isChain_cons, ← mixed_and_isLower_iff]

theorem begins_camel_iff :
    Begins camel.Asks before s ↔ pascal.Suits s ∧
      (before.all (· = '_') = true → s.head? = some '_' →
        (s.dropWhile (· = '_')).head?.any Char.isLower = false) := by
  induction s generalizing before with
  | nil => simp [Begins, Suits]
  | cons x s ih =>
    by_cases bar : x = '_'
    · subst bar
      simp only [Begins, ih, Suits, Asks, List.isChain_cons, ← mixed_and_isLower_iff]
      -- the underscores in front are passed over one by one, up to the first word
      cases s with
      | nil => simp
      | cons y s =>
        by_cases again : y = '_'
        · simp [first, again, mixed_bar]
        · simpa [first, again, mixed_bar] using and_comm
    · simp [Begins, ih, Suits, Asks, List.isChain_cons, ← mixed_and_isLower_iff, bar]

def writeFirst (c : NameCase) (start : Start) (x : Char) : Char :=
  match c with
  | lowercase | snake | kebab => x
  | uppercase | screamingSnake | screamingKebab | pascal => x.toUpper
  | camel => if start = .front then x else x.toUpper

def writeRest (c : NameCase) (w : List Char) : List Char :=
  match c with
  | uppercase | screamingSnake | screamingKebab => w.map Char.toUpper
  | _ => w

theorem writeWord_cons (plain : Plain (x :: w)) (start : Start) :
    c.writeWord start (x :: w) = c.writeFirst start x :: c.writeRest w := by
  cases c <;>
    simp only [writeWord, writeFirst, writeRest, plain.lowerText_eq, plain.upperText_eq,
      plain.capitalize_cons, List.map_cons]
  split <;> rfl

theorem all_bars_eq_false (inside : before.getLast?.all (· = '_') = false) :
    before.all (· = '_') = false := by
  obtain ⟨x, last, letter⟩ : ∃ x, before.getLast? = some x ∧ x ≠ '_' := by
    cases last : before.getLast? with
    | none => simp [last] at inside
    | some x => exact ⟨x, rfl, by simpa [last] using inside⟩
  rw [List.all_eq_false]
  exact ⟨x, List.mem_of_getLast? last, by simpa using letter⟩

theorem keyAfter_inside (bare : '_' ∉ w) (inside : before.getLast?.all (· = '_') = false) :
    c.keyAfter before w = c.writeRest w := by
  induction w generalizing before with
  | nil => cases c <;> rfl
  | cons x w ih =>
    have letter : x ≠ '_' := (List.ne_of_not_mem_cons bare).symm
    have rest : '_' ∉ w := List.not_mem_of_not_mem_cons bare
    rw [keyAfter, ih rest (by simpa using letter)]
    cases c <;> simp [keyChar, writeRest, letter, inside, all_bars_eq_false inside]

theorem keyAfter_cons (bare : '_' ∉ x :: w) (before : List Char) :
    c.keyAfter before (x :: w) = c.keyChar before x ++ c.writeRest w := by
  have letter : x ≠ '_' := (List.ne_of_not_mem_cons bare).symm
  have rest : '_' ∉ w := List.not_mem_of_not_mem_cons bare
  rw [keyAfter, keyAfter_inside rest (by simpa using letter)]

theorem agreesOn_iff (plain : p.Plain) : c.AgreesOn p ↔ c.Asks p.start p.before p.word.head? := by
  obtain ⟨start, before, word⟩ := p
  obtain ⟨plain, bare, front, inside⟩ := plain
  cases word with
  | nil =>
    cases start <;> cases c <;>
      simp [AgreesOn, Asks, between, separator, Start.gap, keyAfter, keyChar, writeWord, lowerText,
        lowerAfter, upperText, capitalize]
  | cons x word =>
    have letter : x ≠ '_' := (List.ne_of_not_mem_cons bare).symm
    have raised := toUpper_eq_iff_of_isPlain plain.of_cons.1
    have back := toLower_toUpper_of_isPlain plain.of_cons.1
    have heads : c.writeWord start (x :: word) = c.keyAfter (before ++ start.gap) (x :: word) ↔
        [c.writeFirst start x] = c.keyChar (before ++ start.gap) x := by
      rw [writeWord_cons plain, keyAfter_cons bare, ← List.singleton_append, List.append_left_inj]
    rw [AgreesOn, heads]
    cases start with
    | front =>
      have none : before = [] := front rfl
      cases c <;>
        simp [Asks, between, Start.gap, keyAfter, keyChar, writeFirst, letter, back, none]
    | underscore =>
      cases c <;>
        simp [Asks, between, separator, Start.gap, keyAfter, keyChar, writeFirst, letter, back,
          raised]
    | change =>
      have inside := inside rfl
      cases c <;>
        simp [Asks, between, separator, Start.gap, keyAfter, keyChar, writeFirst, letter, inside,
          all_bars_eq_false inside, raised]

theorem forall_agreesOn_iff_of_plain (plain : Plain s) :
    (∀ p ∈ parts s, c.AgreesOn p) ↔ c.Suits s := by
  have start : Part.Plain ⟨.front, [], []⟩ := ⟨by simp [Text.Plain], by simp, by simp, by simp⟩
  have asked : (∀ p ∈ parts s, c.AgreesOn p) ↔
      ∀ p ∈ partsAfter .front [] [] (s.map fun x => [x]),
        c.Asks p.start p.before p.word.head? := by
    rw [parts, plain.clusters_eq]
    exact forall₂_congr fun p listed => agreesOn_iff (plain_of_mem_partsAfter plain start p listed)
  rw [asked, forall_partsAfter_iff .front [] List.not_mem_nil plain]
  cases c with
  | lowercase | uppercase => exact (and_iff_right rfl).trans begins_front_iff
  | snake | screamingSnake | kebab | screamingKebab =>
    exact (and_iff_right (by simp [Asks])).trans begins_unchanged_iff
  | pascal => exact (and_iff_right (by simp [Asks])).trans begins_pascal_iff
  | camel =>
    rw [begins_camel_iff]
    simp [Asks, Suits, Start.gap]

end NameCase

end FieldMapping.Text
