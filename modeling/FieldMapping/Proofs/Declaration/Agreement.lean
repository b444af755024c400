import FieldMapping.Proofs.Catalog.Registration
import FieldMapping.Proofs.Declaration.Problems
import FieldMapping.Proofs.Declaration.Readback

/-! Agreement of what a declaration expands to. The properties of its fields are written
twice, into the table and into the arms of the assignment, and they come up again when the
type is resolved. All of them are the same: each field that is not skipped has one row with
all of its options, the derived ones among them have the arms, and a layout that is made of
the rows alone derives nothing that has no arm. -/

namespace FieldMapping

open Assoc (keys)

structure FieldDeclaration.ShownBy (f : FieldDeclaration String) (rename : Option Text.NameCase)
    (row : String × Field (List Token)) : Prop where
  property : row.1 = f.property rename
  destination : row.2.target.name = f.destination.getD (exposedName f.name)
  extended : row.2.target.isExtended = (f.derived.isSome || f.transform.isSome)
  transform : row.2.target.transform? =
    (f.transform.bind Path.ofText?).map fun path => ⟨path.name, path.tokens⟩
  source : row.2.source = f.source
  required : row.2.required = f.required
  symbolic : row.2.symbolic = f.symbolic
  unfilterable : row.2.unfilterable = f.unfilterable
  derived : row.2.origin.expression? = f.derived
  virtual : row.2.origin.isVirtual = f.virtualOnly

namespace FieldDeclaration

theorem expression?_origin {π : Type} (f : FieldDeclaration π) :
    f.origin.expression? = f.derived := by
  unfold origin
  cases f.derived with
  | some expression => rfl
  | none => cases f.virtualOnly <;> rfl

theorem isDerived_origin {π : Type} (f : FieldDeclaration π) :
    f.origin.isDerived = f.derived.isSome := by
  rw [Bool.eq_iff_iff, Origin.isDerived_iff, expression?_origin, Option.isSome_iff_exists]

theorem isVirtual_origin {π : Type} {f : FieldDeclaration π} (sound : f.Sound) :
    f.origin.isVirtual = f.virtualOnly := by
  unfold origin
  cases derived : f.derived with
  | none => cases f.virtualOnly <;> rfl
  | some expression =>
    cases virtual : f.virtualOnly with
    | false => rfl
    | true => exact absurd (.derivedAndVirtual (by simp [derived]) virtual) (sound _)

theorem name_target (f : FieldDeclaration Path) : f.target.name = f.targetName := by
  unfold target
  split_ifs
  · rfl
  · rfl
  · cases f.transform <;> rfl

theorem transform_target {f : FieldDeclaration Path} (sound : f.Sound) :
    f.target.isExtended = (f.derived.isSome || f.transform.isSome) ∧
      f.target.transform? = f.transform.map fun path => ⟨path.name, path⟩ := by
  have alone : f.transform.isSome = true → ¬ (f.derived.isSome = true ∨ f.virtualOnly = true) :=
    fun given computed => sound _ (.transformAndComputed given computed)
  unfold target
  cases given : f.transform with
  | none =>
    cases f.derived.isSome <;> cases f.virtualOnly <;>
      simp [Target.isExtended, Target.transform?]
  | some path =>
    obtain ⟨derived, virtual⟩ := not_or.1 (alone (by simp [given]))
    simp [derived, virtual, Target.isExtended, Target.transform?]

theorem shownBy_row {f : FieldDeclaration String} (sound : f.Sound)
    (readable : f.badTransform? = none) (rename : Option Text.NameCase) :
    f.ShownBy rename (f.read.property rename, f.read.field.map Path.tokens) := by
  have sound' := (sound_read_iff readable).2 sound
  obtain ⟨extended, transform⟩ := transform_target sound'
  constructor
  case property => rfl
  case destination => exact (Target.name_map _ _).trans (name_target f.read)
  case extended =>
    rw [isSome_transform_read readable] at extended
    exact (Target.isExtended_map _ _).trans extended
  case transform =>
    have carried := congrArg (Option.map (Transform.map Path.tokens)) transform
    rw [Option.map_map] at carried
    exact (Target.transform?_map _ _).trans carried
  case derived => exact expression?_origin f.read
  case virtual => exact isVirtual_origin sound'
  all_goals rfl

end FieldDeclaration

namespace Declaration
open Token (rows? assigned? renderAll)

theorem forall₂_declared {d : Declaration String} (readable : d.misread = []) (sound : d.Sound) :
    List.Forall₂ (fun f row => f.ShownBy d.renameRule? row) d.mapped
      (d.read.declared Path.tokens) := by
  have rows : d.read.declared Path.tokens = d.mapped.map fun f =>
      (f.read.property d.renameRule?, f.read.field.map Path.tokens) := by
    rw [declared, table, mapped_read, List.map_map, List.map_map]
    rfl
  rw [rows, List.forall₂_map_right_iff, List.forall₂_same]
  intro f member
  exact FieldDeclaration.shownBy_row (sound.fields f member)
    (badTransform?_of_misread readable member) _

theorem assignable_read (d : Declaration String) : d.read.assignable = d.assignable := by
  rw [assignable, mapped_read, List.filter_map, List.map_map]
  rfl

theorem keys_assignable {ρ : Type} (d : Declaration Path) (rule : Path → ρ) : keys d.assignable =
    keys ((d.declared rule).filter fun row => row.2.origin.isDerived) := by
  have derived : ∀ f : FieldDeclaration Path,
      (f.field.map rule).origin.isDerived = f.derived.isSome := FieldDeclaration.isDerived_origin
  simp [keys, assignable, declared, table, List.filter_map, Function.comp_def, derived]

structure MadeOf {ρ : Type} {n : Nat} (d : Declaration String)
    (rows : List (String × Field (List Token))) (h : Hierarchy ρ n) (e : Fin n) : Prop where
  declared : ∃ rule : List Token → ρ, h.declared e = rows.map fun row => (row.1, row.2.map rule)
  parent : d.parent = none → h.parent e = none

theorem MadeOf.mem_derived_rows {ρ : Type} [DecidableEq ρ] [Rule ρ] {n : Nat}
    {d : Declaration String} {rows : List (String × Field (List Token))} {h : Hierarchy ρ n}
    {c : Catalog ρ n} {e : Fin n} (made : d.MadeOf rows h e) (root : d.parent = none)
    (reached : c.Reachable h) (unregistered : c.registered e = []) {property : String}
    (shown : property ∈ keys (c.resolve h e).1.derived) :
    property ∈ keys (rows.filter fun row => row.2.origin.isDerived) := by
  obtain ⟨⟨_, expression⟩, listed, rfl⟩ := List.mem_map.1 shown
  obtain ⟨⟨property, field⟩, member, found⟩ := List.mem_filterMap.1 listed
  obtain ⟨_, computed, same⟩ := Option.map_eq_some_iff.1 found
  cases same
  have own := Catalog.mem_ownFields_of_resolve_root reached (made.parent root) member
  obtain ⟨rule, declared⟩ := made.declared
  rw [Catalog.ownFields, unregistered, List.append_nil, declared] at own
  obtain ⟨row, given, same⟩ := List.mem_map.1 own
  cases same
  refine List.mem_map.2 ⟨row, List.mem_filter.2 ⟨given, ?_⟩, rfl⟩
  exact row.2.origin.isDerived_iff.2 ⟨_, computed⟩

/-- A declaration that can be read expands exactly if it is sound, and reports what is wrong
otherwise. The table and the arms that a sound one expands to agree with its fields, with
each other and with the layout that the table leads to. -/
theorem expandWritten_agrees {d : Declaration String} (readable : d.misread = []) :
    ((∃ text, d.expandWritten = .ok text) ↔ d.Sound) ∧
    (∀ problems, d.expandWritten = .error problems → d.Reports problems) ∧
    ∀ text, d.expandWritten = .ok text →
      text = renderAll (d.read.tableTokens ++ d.read.assignTokens) ∧
      ∃ rows arms, rows? d.read.tableTokens = some rows ∧
        assigned? d.read.assignTokens = some arms ∧
        List.Forall₂ (fun f row => f.ShownBy d.renameRule? row) d.mapped rows ∧
        List.Forall₂ (fun f arm => arm = (f.property d.renameRule?, f.name))
          (d.mapped.filter fun f => f.derived.isSome) arms ∧
        keys arms = keys (rows.filter fun row => row.2.origin.isDerived) ∧
        ∀ {ρ : Type} [DecidableEq ρ] [Rule ρ] {n : Nat} (h : Hierarchy ρ n) (c : Catalog ρ n)
          (e : Fin n), d.MadeOf rows h e → d.parent = none → c.Reachable h →
            c.registered e = [] → ∀ property ∈ keys (c.resolve h e).1.derived,
              property ∈ keys arms := by
  refine ⟨?_, ?_, ?_⟩
  · simp [expandWritten_eq_ok_iff readable]
  · intro problems refused
    rw [((expandWritten_eq_error_iff readable).1 refused).2]
    exact reports_problems_read readable
  · intro text expanded
    obtain ⟨sound, rfl⟩ := (expandWritten_eq_ok_iff readable).1 expanded
    have alike : keys d.assignable =
        keys ((d.read.declared Path.tokens).filter fun row => row.2.origin.isDerived) := by
      rw [← assignable_read, keys_assignable d.read Path.tokens]
    refine ⟨rfl, _, d.assignable, Token.rows?_tableTokens d.read, ?_,
      forall₂_declared readable sound, ?_, alike, ?_⟩
    · rw [Token.assigned?_assignTokens, assignable_read]
    · rw [assignable, List.forall₂_map_right_iff, List.forall₂_same]
      exact fun _ _ => rfl
    · intro ρ _ _ n h c e made root reached unregistered property shown
      rw [alike]
      exact made.mem_derived_rows root reached unregistered shown

def account : Declaration String where
  name := "Account"
  entity := none
  parent := none
  rename := some "camelCase"
  generic := false
  form := .named
  fields :=
    [{ name := "id", required := true },
     { name := "full_name", derived := some "CONCAT(given, family)", symbolic := true },
     { name := "name", source := some "label", transform := some "crate::display_name" },
     { name := "secret", derived := some "", virtualOnly := true, skipped := true },
     { name := "badge", virtualOnly := true, unfilterable := true }]

def confused : Declaration String :=
  { account with
    rename := some "Title Case"
    generic := true
    fields :=
      [{ name := "total", derived := some "1 + 1", virtualOnly := true },
       { name := "id" },
       { name := "label", transform := some "display_name", virtualOnly := true },
       { name := "note", derived := some " " }] }

def lone (rows : List (String × Field (List Token))) : Hierarchy Directory.StockRule 1 where
  name _ := "Account"
  declared _ := rows.map fun row => (row.1, row.2.map fun _ => .null)
  parent _ := none

theorem expandWritten_agrees_for_account :
    (account.misread = [] ∧ account.Sound ∧ ∃ rows,
      rows? account.read.tableTokens = some rows ∧
      assigned? account.read.assignTokens = some [("fullName", "full_name")] ∧
      List.Forall₂ (fun f row => f.ShownBy (some .camel) row) account.mapped rows ∧
      ∀ property ∈ keys (Catalog.empty.resolve (lone rows) 0).1.derived, property = "fullName") ∧
    confused.misread = [] ∧ confused.Reports [.generic, .unknownRename "Title Case",
      .derivedAndVirtual, .transformAndComputed, .blankExpression] := by
  have readable : account.misread = [] := by decide +kernel
  have sound : account.Sound := ⟨rfl, by decide, by decide⟩
  obtain ⟨expands, -, agrees⟩ := expandWritten_agrees readable
  obtain ⟨text, expanded⟩ := expands.2 sound
  obtain ⟨-, rows, arms, table, assigned, shown, -, -, covered⟩ := agrees text expanded
  have single : arms = [("fullName", "full_name")] := by
    have same := assigned.symm.trans (Token.assigned?_assignTokens account.read)
    exact (Option.some.inj same).trans (by decide +kernel)
  subst single
  refine ⟨⟨readable, sound, rows, table, assigned, shown, fun property derived => ?_⟩, ?_⟩
  · have made : account.MadeOf rows (lone rows) 0 := ⟨⟨_, rfl⟩, fun _ => rfl⟩
    simpa using covered (lone rows) .empty 0 made rfl ⟨[], rfl⟩ rfl property derived
  · have readable : confused.misread = [] := by decide +kernel
    have refused : confused.expandWritten = .error [.generic, .unknownRename "Title Case",
        .derivedAndVirtual, .transformAndComputed, .blankExpression] :=
      (expandWritten_eq_error_iff readable).2
        ⟨fun sound => absurd sound.plain (by decide), by decide +kernel⟩
    exact ⟨readable, (expandWritten_agrees readable).2.1 _ refused⟩

end Declaration

end FieldMapping
