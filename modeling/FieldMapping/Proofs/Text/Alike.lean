import FieldMapping.Proofs.Text.PlainNames
import Mathlib.Data.Set.Function

/-! Names that a rule writes alike. Where words are kept apart, two names come out the same
exactly if their words do. A plain name is written character by character: rules that keep
words apart see it with an underscore at every change between letters and digits, and the
others without underscores but with a capital at every word. Names in their usual form can
be told from either. -/

namespace FieldMapping.Text

theorem wordsAfter_ne_nil (word : List Char) (gs : List Cluster) : wordsAfter word gs ≠ [] := by
  induction gs generalizing word with
  | nil => exact List.cons_ne_nil word []
  | cons g rest ih =>
    rw [wordsAfter]
    split
    · exact List.cons_ne_nil _ _
    · split
      · exact List.cons_ne_nil _ _
      · exact ih (word ++ g)

def spread : List Char → List Char
  | [] => []
  | x :: s => if s.head?.any (mixed x) then x :: '_' :: spread s else x :: spread s

/-- No underscores, and a capital where a word begins; `fresh` tells whether one does here. -/
def hump (fresh : Bool) : List Char → List Char
  | [] => []
  | x :: s =>
    if x = '_' then hump true s
    else (if fresh then x.toUpper else x) :: hump (s.head?.any (mixed x)) s

theorem Plain.spread {s : List Char} (plain : Plain s) : Plain (spread s) := by
  induction s with
  | nil => exact plain
  | cons x s ih =>
    have rest := ih plain.of_cons.2
    have bar : isPlain '_' = true := by decide
    rw [Text.spread]
    split
    · exact List.forall_mem_cons.2 ⟨plain.of_cons.1, List.forall_mem_cons.2 ⟨bar, rest⟩⟩
    · exact List.forall_mem_cons.2 ⟨plain.of_cons.1, rest⟩

theorem intercalate_injOn (separator : Char) :
    Set.InjOn [separator].intercalate {ws | ws ≠ [] ∧ ∀ w ∈ ws, separator ∉ w} := by
  have undone : Set.LeftInvOn (List.splitOn separator) [separator].intercalate
      {ws | ws ≠ [] ∧ ∀ w ∈ ws, separator ∉ w} :=
    fun _ bare => List.splitOn_intercalate separator bare.2 bare.1
  exact undone.injOn

namespace NameCase

/-- The text between words can be told from the words of that name. -/
def Separates (c : NameCase) (s : List Char) : Prop :=
  ∃ separator, c.separator = [separator] ∧ ∀ w ∈ c.writeWords (words s), separator ∉ w

theorem writeWords_ne_nil (c : NameCase) {ws : List (List Char)} (some : ws ≠ []) :
    c.writeWords ws ≠ [] := by
  cases ws with
  | nil => exact absurd rfl some
  | cons w ws =>
    rw [writeWords_cons]
    exact List.cons_ne_nil _ _

theorem apply_eq_iff_of_separates {c : NameCase} {s t : String} (left : c.Separates s.toList)
    (right : c.Separates t.toList) :
    c.apply s = c.apply t ↔
      c.writeWords (words s.toList) = c.writeWords (words t.toList) := by
  obtain ⟨separator, here, bare⟩ := left
  obtain ⟨_, there, bare'⟩ := right
  cases here.symm.trans there
  have some : ∀ u : List Char, c.writeWords (words u) ≠ [] :=
    fun u => c.writeWords_ne_nil (wordsAfter_ne_nil [] (clusters u))
  rw [apply, apply, String.ofList_inj, here]
  exact (intercalate_injOn separator).eq_iff ⟨some _, bare⟩ ⟨some _, bare'⟩

def plainChar (c : NameCase) (x : Char) : Char :=
  match c with
  | lowercase => if x = '_' then ' ' else x
  | uppercase => if x = '_' then ' ' else x.toUpper
  | kebab => if x = '_' then '-' else x
  | screamingKebab => if x = '_' then '-' else x.toUpper
  | screamingSnake => x.toUpper
  | snake | pascal | camel => x

theorem map_plainChar_inj (c : NameCase) {s t : List Char} (left : Plain s) (right : Plain t) :
    s.map c.plainChar = t.map c.plainChar ↔ s = t := by
  let back : Char → Char := fun z => if z = ' ' ∨ z = '-' then '_' else z.toLower
  have found : ∀ x, isPlain x = true → back (c.plainChar x) = x := fun x plain =>
    of_isPlain (P := fun x => back (c.plainChar x) = x) (by cases c <;> decide) plain
  have undone : Set.LeftInvOn (List.map back) (List.map c.plainChar) {u | Plain u} := by
    intro u plain
    rw [List.map_map]
    exact (List.map_congr_left fun x hx => found x (plain x hx)).trans (List.map_id u)
  exact undone.injOn.eq_iff left right

theorem intercalate_wordsAfter {write : List Char → List Char} {g : Char → Char}
    (writes : ∀ w, Plain w → '_' ∉ w → write w = w.map g) {word s : List Char}
    (begun : Plain word) (bare : '_' ∉ word) (plain : Plain s) :
    [g '_'].intercalate ((wordsAfter word (s.map fun x => [x])).map write) =
      (word ++ spread s).map g := by
  induction s generalizing word with
  | nil => simp [wordsAfter, spread, writes word begun bare]
  | cons x s ih =>
    have here : Plain [x] := by simpa [Plain] using plain.of_cons.1
    have rest := plain.of_cons.2
    have next := ih (show Plain [] by simp [Plain]) List.not_mem_nil rest
    have joined : ∀ w : List Char, Plain w → '_' ∉ w →
        [g '_'].intercalate ((w :: wordsAfter [] (s.map fun x => [x])).map write) =
          (w ++ '_' :: spread s).map g := by
      intro w good bare
      have some : (wordsAfter [] (s.map fun x => [x])).map write ≠ [] := by
        simpa using wordsAfter_ne_nil [] _
      rw [List.map_cons, List.intercalate_cons_of_ne_nil some, next, writes w good bare]
      simp
    rw [List.map_cons, wordsAfter, plain.endsWord_eq, spread]
    by_cases bar : x = '_'
    · have unmixed : s.head?.any (mixed x) = false := by cases s <;> simp [bar, mixed_bar]
      rw [if_pos (by rw [bar]), unmixed, joined word begun bare, bar]
      rfl
    · have longer : '_' ∉ word ++ [x] := by simpa [bare] using Ne.symm bar
      rw [if_neg (by simpa using bar)]
      split
      · rw [joined _ (begun.append here) longer]
        simp
      · rw [ih (begun.append here) longer rest]
        simp

def raises (c : NameCase) (start : Start) : Bool := c = pascal || start ≠ .front

theorem writeWord_append {c : NameCase} (solid : c.separator = []) {word : List Char} {x : Char}
    (plain : Plain (word ++ [x])) (start : Start) :
    c.writeWord start (word ++ [x]) =
      c.writeWord start word ++ [if word.isEmpty && c.raises start then x.toUpper else x] := by
  have run : c = pascal ∨ c = camel := by cases c <;> simp_all [separator]
  cases word with
  | nil =>
    rw [List.nil_append, writeWord_cons plain]
    rcases run with rfl | rfl
    · rfl
    · cases start <;> rfl
  | cons y word =>
    have front : Plain (y :: word) := (List.forall_mem_append.1 plain).1
    have whole : Plain (y :: (word ++ [x])) := plain
    rw [List.cons_append, writeWord_cons whole, writeWord_cons front]
    rcases run with rfl | rfl <;> rfl

theorem flatMap_partsAfter {c : NameCase} (solid : c.separator = []) (start : Start)
    (before : List Char) {word s : List Char} (begun : Plain word) (plain : Plain s) :
    ((partsAfter start before word (s.map fun x => [x])).flatMap fun p =>
        c.between p.start ++ c.writeWord p.start p.word) =
      c.writeWord start word ++ hump (word.isEmpty && c.raises start) s := by
  have close : ∀ start, c.between start = [] := by
    intro start
    cases start <;> first | rfl | exact solid
  have nothing : ∀ start, c.writeWord start [] = [] := by
    intro start
    cases c <;> cases start <;> rfl
  induction s generalizing start before word with
  | nil => simp [partsAfter, hump, close]
  | cons x s ih =>
    have here : Plain [x] := by simpa [Plain] using plain.of_cons.1
    have rest := plain.of_cons.2
    rw [List.map_cons, partsAfter, plain.endsWord_eq, hump]
    by_cases bar : x = '_'
    · have begins : c.raises .underscore = true := by simp [raises]
      rw [if_pos (by rw [bar]), if_pos bar, List.flatMap_cons, ih _ _ (by simp [Plain]) rest, close]
      simp [nothing, begins]
    · have added := writeWord_append solid (begun.append here) start
      rw [if_neg (by simpa using bar), if_neg bar]
      split
      · next ended =>
        have begins : c.raises .change = true := by simp [raises]
        rw [List.flatMap_cons, ih _ _ (by simp [Plain]) rest, close, added, ended]
        simp [nothing, begins]
      · next unended =>
        have inside : s.head?.any (mixed x) = false := by simpa using unended
        have filled : (word ++ [x]).isEmpty = false := by simp
        rw [ih _ _ (begun.append here) rest, added, inside, filled]
        simp

def trace (c : NameCase) (s : List Char) : List Char :=
  match c with
  | pascal => hump true s
  | camel => hump false s
  | _ => spread s

theorem writeWords_eq_map {c : NameCase} (apart : c.separator ≠ []) {ws : List (List Char)} :
    c.writeWords ws = ws.map (c.writeWord .change) := by
  cases c <;> first | rfl | exact absurd rfl apart

theorem writeWord_eq_map {c : NameCase} (apart : c.separator ≠ []) {w : List Char}
    (plain : Plain w) (bare : '_' ∉ w) : c.writeWord .change w = w.map c.plainChar := by
  have same : ∀ f : Char → Char, (∀ x, x ≠ '_' → f x = c.plainChar x) →
      w.map f = w.map c.plainChar := by
    intro f agrees
    exact List.map_congr_left fun x hx => agrees x fun bar => bare (bar ▸ hx)
  cases c with
  | lowercase | snake | kebab =>
    rw [← same id fun x letter => by simp [plainChar, letter], List.map_id]
    exact plain.lowerText_eq
  | uppercase | screamingSnake | screamingKebab =>
    rw [← same Char.toUpper fun x letter => by simp [plainChar, letter]]
    exact plain.upperText_eq
  | pascal | camel => exact absurd rfl apart

theorem apply_toList_of_plain (c : NameCase) {s : String} (plain : Plain s.toList) :
    (c.apply s).toList = if c.separator = [] then c.trace s.toList
      else (c.trace s.toList).map c.plainChar := by
  rw [apply, String.toList_ofList]
  by_cases solid : c.separator = []
  · have front := flatMap_partsAfter solid .front [] (show Plain [] by simp [Plain]) plain
    rw [if_pos solid, intercalate_writeWords, parts, plain.clusters_eq, front]
    cases c <;> first | rfl | cases solid
  · have separated : c.separator = [c.plainChar '_'] := by
      cases c <;> first | rfl | exact absurd rfl solid
    have traced : c.trace s.toList = spread s.toList := by
      cases c <;> first | rfl | exact absurd rfl solid
    rw [if_neg solid, writeWords_eq_map solid, separated, traced, words, plain.clusters_eq,
      intercalate_wordsAfter (fun _ => writeWord_eq_map solid) (by simp [Plain])
        List.not_mem_nil plain]
    rfl

theorem apply_eq_iff_of_plain {c : NameCase} {s t : String} (left : Plain s.toList)
    (right : Plain t.toList) : c.apply s = c.apply t ↔ c.trace s.toList = c.trace t.toList := by
  rw [← String.toList_inj, c.apply_toList_of_plain left, c.apply_toList_of_plain right]
  split
  · rfl
  · next apart =>
    have traced : ∀ u, Plain u → Plain (c.trace u) := fun u plain => by
      cases c <;> first | exact plain.spread | exact absurd rfl apart
    exact c.map_plainChar_inj (traced _ left) (traced _ right)

end NameCase

def follows (x y : Char) : Prop :=
  (isDigit x = true → y.isLower = false) ∧ (x = '_' → y.isLower = true)

instance (x y : Char) : Decidable (follows x y) := instDecidableAnd

structure Usual (s : List Char) : Prop where
  plain : Plain s
  first : s.head?.any Char.isLower = true
  chain : s.IsChain follows
  last : s.getLast? ≠ some '_'

def gathered : List Char → List Char
  | [] => []
  | x :: s => if x = '_' ∧ s.head?.any isDigit = true then gathered s else x :: gathered s

def sunk (s : List Char) : List Char :=
  s.flatMap fun x => if x.isUpper then ['_', x.toLower] else [x]

theorem head?_spread (s : List Char) : (spread s).head? = s.head? := by
  cases s with
  | nil => rfl
  | cons x s => rw [spread]; split <;> rfl

theorem gathered_spread {s : List Char} (chain : s.IsChain follows) : gathered (spread s) = s := by
  induction s with
  | nil => rfl
  | cons x s ih =>
    obtain ⟨next, rest⟩ := List.isChain_cons.1 chain
    have later := ih rest
    rw [spread]
    split
    · next meet =>
      obtain ⟨y, head, mixed⟩ : ∃ y, s.head? = some y ∧ mixed x y = true := by
        simpa [Option.any_eq_true] using meet
      have letter : x ≠ '_' := by
        rintro rfl
        simp [mixed_bar] at mixed
      have digit : isDigit y = true := by
        have := (next y head).1
        grind [Text.mixed]
      have shown : (spread s).head?.any isDigit = true := by simp [head?_spread, head, digit]
      rw [gathered, if_neg (by simp [letter]), gathered, if_pos ⟨rfl, shown⟩, later]
    · have kept : ¬ (x = '_' ∧ (spread s).head?.any isDigit = true) := by
        rintro ⟨bar, shown⟩
        obtain ⟨y, head, digit⟩ : ∃ y, s.head? = some y ∧ isDigit y = true := by
          simpa [head?_spread, Option.any_eq_true] using shown
        have letter := (next y head).2 bar
        rw [isLower_of_isDigit digit] at letter
        cases letter
      rw [gathered, if_neg kept, later]

theorem isUpper_toUpper_of_isPlain {x : Char} (plain : isPlain x = true) :
    x.isUpper = false ∧ x.toUpper.isUpper = x.isLower :=
  of_isPlain (P := fun x => x.isUpper = false ∧ x.toUpper.isUpper = x.isLower) (by decide) plain

theorem sunk_cons_of_isPlain {x : Char} (plain : isPlain x = true) (s : List Char) :
    sunk (x :: s) = x :: sunk s := by
  simp [sunk, (isUpper_toUpper_of_isPlain plain).1]

theorem sunk_cons_toUpper {x : Char} (plain : isPlain x = true) (letter : x.isLower = true)
    (s : List Char) : sunk (x.toUpper :: s) = '_' :: x :: sunk s := by
  have capital : x.toUpper.isUpper = true := (isUpper_toUpper_of_isPlain plain).2.trans letter
  simp [sunk, capital, toLower_toUpper_of_isPlain plain]

/-- The induction goes along the name; an underscore waits for the letter behind it. -/
theorem sunk_hump {x : Char} {s : List Char} (plain : Plain (x :: s))
    (chain : (x :: s).IsChain follows) (last : (x :: s).getLast? ≠ some '_') :
    sunk (hump (x = '_' || s.head?.any (mixed x)) s) = if x = '_' then '_' :: s else s := by
  induction s generalizing x with
  | nil =>
    have letter : x ≠ '_' := by simpa using last
    simp [hump, sunk, letter]
  | cons y s ih =>
    obtain ⟨next, rest⟩ := List.isChain_cons.1 chain
    have step : follows x y := next y rfl
    have good : isPlain y = true := plain.of_cons.2.of_cons.1
    have later := ih plain.of_cons.2 rest (by simpa [List.getLast?_cons_cons] using last)
    by_cases bar : x = '_'
    · have letter := step.2 bar
      have apart : y ≠ '_' := by
        rintro rfl
        exact absurd letter (by decide)
      simp only [apart, decide_false, Bool.false_or, if_false] at later
      simp [hump, bar, apart, sunk_cons_toUpper good letter, later]
    · by_cases under : y = '_'
      · simp only [under, decide_true, Bool.true_or, if_true] at later
        simp [hump, bar, under, later]
      · simp only [under, decide_false, Bool.false_or, if_false] at later
        have still : (if (y :: s).head?.any (mixed x) then y.toUpper else y) = y := by
          split
          · next meet =>
            -- only a digit can end a word here, and it has no capital
            have digit : y.isLower = false := by
              have := step.1
              simp only [List.head?_cons, Option.any_some] at meet
              grind [Text.mixed, isLower_of_isDigit]
            exact (toUpper_eq_iff_of_isPlain good).2 digit
          · rfl
        rw [hump, if_neg under]
        simp only [bar, decide_false, Bool.false_or, if_false, still]
        rw [sunk_cons_of_isPlain good, later]

theorem Usual.sunk_hump {s : List Char} (usual : Usual s) :
    sunk (hump false s) = s ∧ sunk (hump true s) = '_' :: s := by
  obtain ⟨plain, first, chain, last⟩ := usual
  cases s with
  | nil => cases first
  | cons x s =>
    have letter : x.isLower = true := by simpa using first
    have apart : x ≠ '_' := by
      rintro rfl
      exact absurd letter (by decide)
    have rest : sunk (hump (s.head?.any (mixed x)) s) = s := by
      simpa [apart] using Text.sunk_hump plain chain last
    have good := plain.of_cons.1
    constructor
    · simp [hump, apart, sunk_cons_of_isPlain good, rest]
    · simp [hump, apart, sunk_cons_toUpper good letter, rest]

theorem NameCase.trace_inj (c : NameCase) {s t : List Char} (left : Usual s) (right : Usual t) :
    c.trace s = c.trace t ↔ s = t := by
  obtain ⟨back, undone⟩ : ∃ back, Set.LeftInvOn back c.trace {u | Usual u} := by
    cases c with
    | pascal =>
      exact ⟨fun u => (sunk u).tail, fun u usual => congrArg List.tail usual.sunk_hump.2⟩
    | camel => exact ⟨sunk, fun u usual => usual.sunk_hump.1⟩
    | _ => exact ⟨gathered, fun u usual => gathered_spread usual.chain⟩
  exact undone.injOn.eq_iff left right

end FieldMapping.Text
