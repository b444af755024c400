import FieldMapping.Declaration.Basic
import FieldMapping.Proofs.Text.PlainNames

/-! Properties and keys. A declared field is exposed under a property, and the written
form of its type has it under a key; both follow a renaming rule of the same name. The
property is made of the words of the field's name while the key keeps to its underscores,
so the two are the same only for names that the rule treats alike part by part. Plain
names show this on their face. -/

namespace FieldMapping

namespace Text

def raised (fresh : Bool) : List Char → List Char
  | [] => []
  | x :: s =>
    if x = '_' then raised true s else (if fresh then x.toUpper else x) :: raised false s

def lowerFirst : List Char → List Char
  | [] => []
  | x :: s => x.toLower :: s

def dashed (s : List Char) : List Char := s.map fun x => if x = '_' then '-' else x

namespace NameCase

/-- The rules by which the written form makes keys of names. They know no words: two of
them leave a name as it is, and the others go by its underscores and change the case of
the letters of ASCII alone. -/
structure KeyRules (key : NameCase → String → String) : Prop where
  lowercase : ∀ s, key .lowercase s = s
  snake : ∀ s, key .snake s = s
  uppercase : ∀ s, key .uppercase s = upperAscii s
  screamingSnake : ∀ s, key .screamingSnake s = upperAscii s
  pascal : ∀ s, key .pascal s = .ofList (raised true s.toList)
  camel : ∀ s, key .camel s = .ofList (lowerFirst (key .pascal s).toList)
  kebab : ∀ s, key .kebab s = .ofList (dashed (key .snake s).toList)
  screamingKebab : ∀ s, key .screamingKebab s = .ofList (dashed (key .screamingSnake s).toList)

def standardKey (c : NameCase) (s : String) : String :=
  match c with
  | .lowercase | .snake => s
  | .uppercase | .screamingSnake => upperAscii s
  | .pascal => .ofList (raised true s.toList)
  | .camel => .ofList (lowerFirst (raised true s.toList))
  | .kebab => .ofList (dashed s.toList)
  | .screamingKebab => .ofList (dashed (s.toList.map Char.toUpper))

theorem keyRules_standardKey : KeyRules standardKey where
  lowercase _ := rfl
  snake _ := rfl
  uppercase _ := rfl
  screamingSnake _ := rfl
  pascal _ := rfl
  camel _ := by simp [standardKey]
  kebab _ := rfl
  screamingKebab _ := by simp [standardKey, upperAscii]

section Keys
variable {c : NameCase} {before s : List Char}

theorem keyAfter_eq_map {f : Char → Char}
    (single : ∀ before x, c.keyChar before x = [f x]) (before s : List Char) :
    c.keyAfter before s = s.map f := by
  induction s generalizing before with
  | nil => rfl
  | cons x s ih => rw [keyAfter, single, ih]; rfl

theorem keyAfter_pascal (before s : List Char) :
    pascal.keyAfter before s = raised (before.getLast?.all (· = '_')) s := by
  induction s generalizing before with
  | nil => rfl
  | cons x s ih =>
    rw [keyAfter, ih]
    by_cases bar : x = '_'
    · simp [keyChar, raised, bar]
    · have inside : (before ++ [x]).getLast?.all (· = '_') = false := by simp [bar]
      rw [inside, keyChar, raised, if_neg bar, if_neg bar]
      cases before.getLast?.all (· = '_') <;> rfl

theorem keyAfter_camel (before s : List Char) :
    camel.keyAfter before s =
      if before.all (· = '_') then lowerFirst (raised true s)
      else raised (before.getLast?.all (· = '_')) s := by
  induction s generalizing before with
  | nil => simp [keyAfter, raised, lowerFirst]
  | cons x s ih =>
    rw [keyAfter, ih]
    by_cases bar : x = '_'
    · have still : (before ++ [x]).all (· = '_') = before.all (· = '_') := by simp [bar]
      have fresh : (before ++ [x]).getLast?.all (· = '_') = true := by simp [bar]
      rw [still, fresh, keyChar, raised, raised, if_pos bar, if_pos bar, if_pos bar]
      rfl
    · have begun : (before ++ [x]).all (· = '_') = false := by simp [bar]
      have inside : (before ++ [x]).getLast?.all (· = '_') = false := by simp [bar]
      rw [begun, inside, keyChar, raised, raised, if_neg bar, if_neg bar, if_neg bar]
      cases before.all (· = '_') with
      | true => rfl
      | false => cases before.getLast?.all (· = '_') <;> rfl

theorem toUpper_eq_bar_iff (x : Char) : x.toUpper = '_' ↔ x = '_' := by
  by_cases small : x.toNat < 128
  · have all : ∀ n : Fin 128, (Char.ofNat n.val).toUpper = '_' ↔ Char.ofNat n.val = '_' := by
      decide
    simpa using all ⟨x.toNat, small⟩
  · have still : x.toUpper = x := by
      unfold Char.toUpper
      exact dif_neg fun letter => small (Nat.lt_of_le_of_lt letter.2 (by decide))
    rw [still]

theorem KeyRules.key_eq {key : NameCase → String → String} (rules : KeyRules key) (c : NameCase)
    (s : String) : key c s = .ofList (c.keyAfter [] s.toList) := by
  cases c with
  | lowercase =>
    rw [rules.lowercase, keyAfter_eq_map (f := id) fun _ _ => rfl]
    simp
  | snake =>
    rw [rules.snake, keyAfter_eq_map (f := id) fun _ _ => rfl]
    simp
  | uppercase => rw [rules.uppercase, keyAfter_eq_map fun _ _ => rfl, upperAscii]
  | screamingSnake => rw [rules.screamingSnake, keyAfter_eq_map fun _ _ => rfl, upperAscii]
  | kebab => rw [rules.kebab, rules.snake, keyAfter_eq_map fun _ _ => rfl, dashed]
  | screamingKebab =>
    rw [rules.screamingKebab, rules.screamingSnake, keyAfter_eq_map fun _ _ => rfl, dashed,
      upperAscii]
    simp [Function.comp_def, toUpper_eq_bar_iff]
  | pascal => rw [rules.pascal, keyAfter_pascal]; rfl
  | camel => rw [rules.camel, rules.pascal, keyAfter_camel]; simp

end Keys

end NameCase

end Text

namespace FieldDeclaration

open Text NameCase

/-- A property is the key exactly if all its parts are written as the key has them, which
for a plain name is to be seen from its underscores and digits. -/
theorem property_eq_key_iff {π : Type} {key : NameCase → String → String} (rules : KeyRules key)
    (c : NameCase) (f : FieldDeclaration π) :
    (f.property (some c) = key c (exposedName f.name) ↔
      ∀ p ∈ parts (exposedName f.name).toList, c.AgreesOn p) ∧
    (Plain (exposedName f.name).toList →
      (f.property (some c) = key c (exposedName f.name) ↔
        c.Suits (exposedName f.name).toList)) := by
  have partwise : f.property (some c) = key c (exposedName f.name) ↔
      ∀ p ∈ parts (exposedName f.name).toList, c.AgreesOn p := by
    rw [property, apply, rules.key_eq, String.ofList_inj]
    exact intercalate_eq_keyAfter_iff c (exposedName f.name).toList
  exact ⟨partwise, fun plain => partwise.trans (forall_agreesOn_iff_of_plain plain)⟩

theorem property_eq_key_iff_for_lines :
    (∀ c, ({ name := "first_line" } : FieldDeclaration Path).property (some c) =
      standardKey c "first_line" ↔ c ∉ [.lowercase, .uppercase]) ∧
    (∀ c, ({ name := "line1" } : FieldDeclaration Path).property (some c) =
      standardKey c "line1" ↔ c ∈ [.pascal, .camel]) := by
  have first : exposedName "first_line" = "first_line" := by decide
  have numbered : exposedName "line1" = "line1" := by decide
  constructor
  · intro c
    have agrees := (property_eq_key_iff keyRules_standardKey c
      ({ name := "first_line" } : FieldDeclaration Path)).2 (by decide)
    rw [first] at agrees
    refine agrees.trans ?_
    cases c <;> decide
  · intro c
    have agrees := (property_eq_key_iff keyRules_standardKey c
      ({ name := "line1" } : FieldDeclaration Path)).2 (by decide)
    rw [numbered] at agrees
    refine agrees.trans ?_
    cases c <;> decide

/-- The same fields under one name when exposed and under another when written. -/
theorem property_apart_from_key :
    KeyRules standardKey ∧
    (({ name := "first_name" } : FieldDeclaration Path).property (some .lowercase) = "first name" ∧
      standardKey .lowercase "first_name" = "first_name") ∧
    (({ name := "line1" } : FieldDeclaration Path).property (some .snake) = "line_1" ∧
      standardKey .snake "line1" = "line1") ∧
    (({ name := "_id" } : FieldDeclaration Path).property (some .camel) = "Id" ∧
      standardKey .camel "_id" = "id") :=
  ⟨keyRules_standardKey, by decide +kernel, by decide +kernel, by decide +kernel⟩

end FieldDeclaration

end FieldMapping
