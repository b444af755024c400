import FieldMapping.Directory.Rules
import FieldMapping.Proofs.Reshape.Taking
import FieldMapping.Traverse

/-! What becomes of a record with a layout. It is refused exactly when some field that
takes a value has a target for which the shape has no key, and then the first such field
is named. Otherwise it is reshaped, into keys of the shape only. It never goes through
unread, so neither does an entity that is converted. -/

namespace FieldMapping

namespace Catalog
variable {ρ : Type} {n : Nat}

theorem exists_mapped_of_sourceOf {h : Hierarchy ρ n} {c c' : Catalog ρ n} {e : Fin n}
    {written : Option Value} {source : Source ρ} (ok : c.sourceOf h e written = (.ok source, c')) :
    ∃ l record, source = .mapped l record := by
  unfold sourceOf at ok
  split at ok
  · simp at ok
  · simp only [Prod.mk.injEq, Except.ok.injEq] at ok
    exact ⟨_, _, ok.1.symm⟩
  · simp at ok

end Catalog

theorem Source.onto_mapped_ne_none {ρ : Type} [Rule ρ] (l : Layout ρ) (record : Record)
    (shape : Shape) : (Source.mapped l record).onto shape ≠ .ok none := by
  intro made
  obtain ⟨out, -, impossible⟩ := map_eq_ok_iff.1 made
  cases impossible

theorem Catalog.convert_ne_none {ρ : Type} {n : Nat} [Rule ρ] {α β : Type} (h : Hierarchy ρ n)
    (c : Catalog ρ n) (e : Fin n) (write : α → Option Value) (a : α) (target : Fin n)
    (read : Value → Option β) : (c.convert h e write a target read).1 ≠ .ok none := by
  unfold convert
  split
  · nofun
  · next source c' made =>
    obtain ⟨l, record, rfl⟩ := exists_mapped_of_sourceOf made
    dsimp only
    split
    · nofun
    · next unread => exact absurd unread (Source.onto_mapped_ne_none l record _)
    · split <;> nofun

namespace Layout
variable {ρ : Type} {l : Layout ρ} {record : Record} {shape : Shape}

theorem onto_conforms [Rule ρ] (l : Layout ρ) (distinct : record.Distinct) (shape : Shape) :
    let made := (Source.mapped l record).onto shape
    ((∃ e, made = .error e) ↔ ∃ t ∈ l.takings record, shape.has t.target = false) ∧
    (∀ e, made = .error e ↔
      ∃ before t after, l.takings record = before ++ t :: after ∧
        (∀ s ∈ before, shape.has s.target = true) ∧ shape.has t.target = false ∧
        e = ⟨l.entity, t.property, t.target⟩) ∧
    ((∀ t ∈ l.takings record, shape.has t.target = true) →
      ∃ out, made = .ok (some out) ∧ (∀ key ∈ out.keys, shape.has key = true) ∧
        ∀ t ∈ l.takings record, t.target ∈ out.keys) ∧
    ∀ (n : Nat) (h : Hierarchy ρ n) (c : Catalog ρ n) (α β : Type) (e : Fin n)
      (write : α → Option Value) (a : α) (target : Fin n) (read : Value → Option β),
      (c.convert h e write a target read).1 ≠ .ok none := by
  intro made
  have passes : (∃ out, l.reshape record shape = .ok out) ↔
      ∀ t ∈ l.takings record, shape.has t.target = true := by
    simp only [reshape_eq_ok_iff l distinct, exists_and_left, exists_eq, and_true]
  refine ⟨?_, fun e => ?_, fun declared => ?_, ?_⟩
  · have fails : (∃ e, made = .error e) ↔ ∃ e, l.reshape record shape = .error e :=
      exists_congr fun e => map_eq_error_iff
    rw [fails, fails_iff, passes]
    simp
  · exact map_eq_error_iff.trans (l.reshape_eq_error_iff distinct shape)
  · obtain ⟨out, reshaped⟩ := passes.2 declared
    refine ⟨out, map_eq_ok_iff.2 ⟨out, reshaped, rfl⟩, ?_⟩
    obtain ⟨-, rfl⟩ := (l.reshape_eq_ok_iff distinct shape).1 reshaped
    simp only [Assoc.keys_append, List.mem_append]
    constructor
    · rintro key (put | leftover)
      · obtain ⟨t, taking, rfl⟩ := Taking.mem_keys_putAll.1 put
        exact declared t taking
      · obtain ⟨p, kept, rfl⟩ := List.mem_map.1 leftover
        exact (mem_carried kept).2.2.2
    · exact fun t taking => .inl (Taking.mem_keys_putAll.2 ⟨t, taking, rfl⟩)
  · intro n h c α β e write a target read
    exact Catalog.convert_ne_none h c e write a target read

open Directory in
theorem onto_conforms_for_nicknames :
    let l : Layout StockRule := .ofFields "Person"
      [("nickname", { Field.column "nick" with source := some "name" }),
       ("name", .column "full_name")]
    let record : Record := [("name", .string "Ann"), ("age", .bool true)]
    let narrow := Shape.ofKeys ["full_name"]
    let wide := Shape.ofKeys ["age", "nick"]
    record.Distinct ∧
    (∃ t ∈ l.takings record, narrow.has t.target = false) ∧
    (Source.mapped l record).onto narrow = .error ⟨"Person", "nickname", "nick"⟩ ∧
    (∀ t ∈ l.takings record, wide.has t.target = true) ∧
    (Source.mapped l record).onto wide =
      .ok (some [("nick", .string "Ann"), ("age", .bool true)]) ∧
    ∃ out, (Source.mapped l record).onto wide = .ok (some out) ∧
      ∀ key ∈ out.keys, wide.has key = true := by
  intro l record narrow wide
  have distinct : record.Distinct := by decide
  obtain ⟨fails, names, -, -⟩ := onto_conforms l distinct narrow
  obtain ⟨-, -, reshapes, -⟩ := onto_conforms l distinct wide
  have taking : l.takings record =
      [⟨"nickname", { Field.column "nick" with source := some "name" }, "name", .string "Ann"⟩] := rfl
  have refused := (names ⟨"Person", "nickname", "nick"⟩).2 ⟨[], _, [], taking, by simp, rfl, rfl⟩
  have declared : ∀ t ∈ l.takings record, wide.has t.target = true := by
    rw [taking]
    simp only [List.mem_singleton, forall_eq]
    rfl
  obtain ⟨out, reshaped, keys, -⟩ := reshapes declared
  exact ⟨distinct, fails.1 ⟨_, refused⟩, refused, declared, rfl, out, reshaped, keys⟩

end Layout

end FieldMapping
