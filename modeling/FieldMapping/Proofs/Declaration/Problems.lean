import FieldMapping.Declaration.Source
import Mathlib.Data.List.Forall2

/-! What may be wrong with a declaration. A type must not be generic and must follow a rule
that exists, and no field may ask for two things that exclude each other or for a value
without an expression. A declaration is refused exactly if it breaks one of these, and is
then shown to break each one that it is said to break: the type first, and after it every
field that is not sound, once. -/

namespace FieldMapping

open Text (NameCase)

namespace Text.NameCase

def Known (name : String) : Prop := ∃ c : NameCase, c.name = name

theorem isSome_ofName?_iff {name : String} : (ofName? name).isSome = true ↔ Known name := by
  constructor
  · intro found
    obtain ⟨c, here⟩ := Option.isSome_iff_exists.1 found
    exact ⟨c, by simpa using List.find?_some here⟩
  · rintro ⟨c, rfl⟩
    rw [ofName?_name]
    rfl

instance (name : String) : Decidable (Known name) :=
  decidable_of_iff ((ofName? name).isSome = true) isSome_ofName?_iff

end Text.NameCase

namespace FieldDeclaration
variable {π : Type}

inductive Violates (f : FieldDeclaration π) : Problem → Prop
  | derivedAndVirtual (derived : f.derived.isSome = true) (virtual : f.virtualOnly = true) :
    Violates f .derivedAndVirtual
  | transformAndComputed (transform : f.transform.isSome = true)
    (computed : f.derived.isSome = true ∨ f.virtualOnly = true) : Violates f .transformAndComputed
  | blankExpression {expression : String} (derived : f.derived = some expression)
    (blank : Text.trim expression.toList = []) : Violates f .blankExpression

def Sound (f : FieldDeclaration π) : Prop := ∀ p, ¬ f.Violates p

theorem any_allBlank_iff (f : FieldDeclaration π) : f.derived.any Text.allBlank = true ↔
    ∃ expression, f.derived = some expression ∧ Text.trim expression.toList = [] := by
  cases f.derived <;> simp [Text.allBlank, Text.trim_eq_nil_iff]

theorem violates_of_problem? {f : FieldDeclaration π} {p : Problem} (found : f.problem? = some p) :
    f.Violates p := by
  unfold problem? at found
  split at found
  · next both =>
    obtain ⟨derived, virtual⟩ := Bool.and_eq_true_iff.1 both
    cases found
    exact .derivedAndVirtual derived virtual
  split at found
  · next both =>
    obtain ⟨transform, computed⟩ := Bool.and_eq_true_iff.1 both
    cases found
    exact .transformAndComputed transform (Bool.or_eq_true_iff.1 computed)
  split at found
  · next blank =>
    obtain ⟨expression, derived, blank⟩ := f.any_allBlank_iff.1 blank
    cases found
    exact .blankExpression derived blank
  · cases found

theorem problem?_eq_none_iff {f : FieldDeclaration π} : f.problem? = none ↔ f.Sound := by
  constructor
  · intro clear p violated
    cases violated with
    | derivedAndVirtual derived virtual => simp [problem?, derived, virtual] at clear
    | transformAndComputed transform computed => grind [problem?]
    | blankExpression derived blank =>
      have blank := f.any_allBlank_iff.2 ⟨_, derived, blank⟩
      grind [problem?]
  · intro sound
    cases found : f.problem? with
    | none => rfl
    | some p => exact absurd (violates_of_problem? found) (sound p)

instance (f : FieldDeclaration π) : Decidable f.Sound :=
  decidable_of_iff (f.problem? = none) problem?_eq_none_iff

theorem isSome_transform_read {f : FieldDeclaration String} (readable : f.badTransform? = none) :
    f.read.transform.isSome = f.transform.isSome := by
  cases written : f.transform with
  | none => simp [read, written]
  | some text =>
    have path : Path.ofText? text ≠ none := by simpa [badTransform?, written] using readable
    simpa [read, written, Option.isSome_iff_ne_none] using path

theorem violates_read_iff {f : FieldDeclaration String} (readable : f.badTransform? = none)
    {p : Problem} : f.read.Violates p ↔ f.Violates p := by
  have given := isSome_transform_read readable
  constructor
  · rintro (⟨derived, virtual⟩ | ⟨transform, computed⟩ | ⟨derived, blank⟩)
    · exact .derivedAndVirtual derived virtual
    · exact .transformAndComputed (given ▸ transform) computed
    · exact .blankExpression derived blank
  · rintro (⟨derived, virtual⟩ | ⟨transform, computed⟩ | ⟨derived, blank⟩)
    · exact .derivedAndVirtual derived virtual
    · exact .transformAndComputed (given.symm ▸ transform) computed
    · exact .blankExpression derived blank

theorem sound_read_iff {f : FieldDeclaration String} (readable : f.badTransform? = none) :
    f.read.Sound ↔ f.Sound := by
  simp only [Sound, violates_read_iff readable]

theorem problem?_read_eq_none_iff {f : FieldDeclaration String}
    (readable : f.badTransform? = none) : f.read.problem? = none ↔ f.Sound := by
  rw [problem?_eq_none_iff, sound_read_iff readable]

end FieldDeclaration

namespace Declaration

structure Sound {π : Type} (d : Declaration π) : Prop where
  plain : d.generic = false
  ruled : ∀ rule, d.rename = some rule → NameCase.Known rule
  fields : ∀ f ∈ d.mapped, f.Sound

/-- Each rule of the type that is broken, generics before renaming, and then, in their
order, one problem of each field that is not sound. -/
def Reports {π : Type} (d : Declaration π) (problems : List Problem) : Prop :=
  ∃ ofFields, problems =
      (if d.generic then [.generic] else [])
        ++ (d.rename.filter fun rule => ¬ NameCase.Known rule).toList.map .unknownRename
        ++ ofFields ∧
    List.Forall₂ FieldDeclaration.Violates (d.mapped.filter fun f => ¬ f.Sound) ofFields

theorem toList_renameProblem? {π : Type} (d : Declaration π) : d.renameProblem?.toList =
    (d.rename.filter fun rule => ¬ NameCase.Known rule).toList.map .unknownRename := by
  unfold renameProblem?
  cases d.rename with
  | none => rfl
  | some rule => by_cases known : NameCase.Known rule <;>
      simp [Option.filter, known, NameCase.isSome_ofName?_iff]

theorem forall₂_filterMap {α β : Type} {f : α → Option β} {good : α → Prop} {R : α → β → Prop}
    [DecidablePred good] {l : List α} (none_iff : ∀ a ∈ l, f a = none ↔ good a)
    (related : ∀ a ∈ l, ∀ b, f a = some b → R a b) :
    List.Forall₂ R (l.filter fun a => ¬ good a) (l.filterMap f) := by
  induction l with
  | nil => exact .nil
  | cons a l ih =>
    rw [List.forall_mem_cons] at none_iff related
    have rest := ih none_iff.2 related.2
    cases found : f a with
    | none =>
      have fine : good a := none_iff.1.1 found
      simpa [found, fine] using rest
    | some b =>
      have bad : ¬ good a := fun fine => by simp [none_iff.1.2 fine] at found
      simpa [found, bad] using And.intro (related.1 b found) rest

section Written
variable {d : Declaration String}

theorem mapped_read (d : Declaration String) :
    d.read.mapped = d.mapped.map FieldDeclaration.read := by
  simp only [mapped, read, List.filter_map]
  rfl

theorem badTransform?_of_misread (readable : d.misread = []) {f : FieldDeclaration String}
    (member : f ∈ d.mapped) : f.badTransform? = none := by
  have transforms := (List.append_eq_nil_iff.1 readable).2
  split at transforms
  · exact List.filterMap_eq_nil_iff.1 transforms f (List.mem_of_mem_filter member)
  · simp at transforms

theorem problems_read (d : Declaration String) : d.read.problems =
    (if d.generic then [.generic] else [])
      ++ (d.rename.filter fun rule => ¬ NameCase.Known rule).toList.map .unknownRename
      ++ d.mapped.filterMap fun f => f.read.problem? := by
  rw [problems, toList_renameProblem?, mapped_read, List.filterMap_map]
  rfl

theorem reports_problems_read (readable : d.misread = []) : d.Reports d.read.problems := by
  refine ⟨_, d.problems_read, forall₂_filterMap (fun f member => ?_) fun f member p found => ?_⟩
  · exact FieldDeclaration.problem?_read_eq_none_iff (badTransform?_of_misread readable member)
  · have violated := FieldDeclaration.violates_of_problem? found
    exact (FieldDeclaration.violates_read_iff (badTransform?_of_misread readable member)).1 violated

theorem problems_read_eq_nil_iff (readable : d.misread = []) : d.read.problems = [] ↔ d.Sound := by
  have ofType : (if d.generic then [Problem.generic] else []) = [] ↔ d.generic = false := by
    cases d.generic <;> simp
  have ofRename : ((d.rename.filter fun rule => ¬ NameCase.Known rule).toList.map
      Problem.unknownRename) = [] ↔ ∀ rule, d.rename = some rule → NameCase.Known rule := by
    cases d.rename <;> simp [Option.filter]
  have ofFields : d.mapped.filterMap (fun f => f.read.problem?) = [] ↔
      ∀ f ∈ d.mapped, f.Sound := by
    rw [List.filterMap_eq_nil_iff]
    exact forall₂_congr fun f member =>
      FieldDeclaration.problem?_read_eq_none_iff (badTransform?_of_misread readable member)
  rw [problems_read, List.append_eq_nil_iff, List.append_eq_nil_iff, ofType, ofRename, ofFields]
  constructor
  · rintro ⟨⟨plain, ruled⟩, fields⟩
    exact ⟨plain, ruled, fields⟩
  · rintro ⟨plain, ruled, fields⟩
    exact ⟨⟨plain, ruled⟩, fields⟩

theorem expandWritten_eq_ok_iff (readable : d.misread = []) {text : String} :
    d.expandWritten = .ok text ↔
      d.Sound ∧ text = Token.renderAll (d.read.tableTokens ++ d.read.assignTokens) := by
  rw [← problems_read_eq_nil_iff readable, expandWritten, readable, expand]
  cases d.read.problems <;> simp [eq_comm]

theorem expandWritten_eq_error_iff (readable : d.misread = []) {problems : List Problem} :
    d.expandWritten = .error problems ↔ ¬ d.Sound ∧ problems = d.read.problems := by
  rw [← problems_read_eq_nil_iff readable, expandWritten, readable, expand]
  cases d.read.problems <;> simp [eq_comm]

end Written

end Declaration

end FieldMapping
