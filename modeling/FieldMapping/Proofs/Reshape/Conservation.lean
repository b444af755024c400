import FieldMapping.Directory.Rules
import FieldMapping.Proofs.Reshape.Taking
import FieldMapping.Traverse
import Mathlib.Data.List.Nodup

/-! Where every value of a record goes. It is taken by one field, or carried along under
its own key, or dropped. A key is carried along when no field takes it, the shape has it
and no field has put anything there, so a property of the layout never is, and nothing
that a field puts out is replaced by what is carried along. -/

namespace FieldMapping

inductive Fate where
  | taken
  | carried
  | dropped
deriving DecidableEq

namespace Layout
variable {ρ : Type} {l : Layout ρ} {record out : Record} {shape : Shape} {key : String}

/-- What has become of a key of the record. If a field has put something under a key that
is dropped, then this is all that stands there. -/
def Meets (l : Layout ρ) (record out : Record) (key : String) : Fate → Prop
  | .taken => ∃! t, t ∈ l.takings record ∧ t.key = key
  | .carried => l.Untaken record key ∧ l.Unwritten record key ∧
      ∃ v, record.get? key = some v ∧ out.get? key = some v
  | .dropped => l.Untaken record key ∧ (key ∈ out.keys → ¬ l.Unwritten record key)

theorem taken_of_mem {t : Taking ρ} (member : t ∈ l.takings record) :
    l.Meets record out t.key .taken :=
  ⟨t, ⟨member, rfl⟩, fun _ other =>
    List.inj_on_of_nodup_map nodup_keys_takings other.1 member other.2⟩

theorem get?_carried (untaken : l.Untaken record key) (unwritten : l.Unwritten record key) :
    (l.carried shape record).get? key = if shape.has key then record.get? key else none := by
  rw [carried, Assoc.get?_filter (l.leftover record)
    fun k => shape.has k && k ∉ (l.takings record).map Taking.target, leftover,
    Assoc.get?_without, if_neg (untaken_iff.1 untaken)]
  simp only [unwritten_iff.1 unwritten, not_false_eq_true, decide_true, Bool.and_true]

theorem get?_of_unwritten [Rule ρ] (unwritten : l.Unwritten record key) :
    Assoc.get? (Taking.putAll (l.takings record) ++ l.carried shape record) key =
      (l.carried shape record).get? key := by
  have vacant : Assoc.get? (Taking.putAll (l.takings record)) key = none := by
    rw [Assoc.get?_eq_none_iff, Taking.mem_keys_putAll, ← List.mem_map]
    exact unwritten_iff.1 unwritten
  rw [Assoc.get?_append, vacant, Option.none_or]

theorem carried_iff [Rule ρ] (here : key ∈ record.keys) (untaken : l.Untaken record key) :
    l.Meets record (Taking.putAll (l.takings record) ++ l.carried shape record) key .carried ↔
      shape.has key = true ∧ l.Unwritten record key := by
  constructor
  · rintro ⟨-, unwritten, v, -, goes⟩
    rw [get?_of_unwritten unwritten, get?_carried untaken unwritten] at goes
    cases room : shape.has key with
    | true => exact ⟨rfl, unwritten⟩
    | false => simp [room] at goes
  · rintro ⟨room, unwritten⟩
    obtain ⟨v, value⟩ := Option.isSome_iff_exists.1 (Assoc.has_iff.2 here)
    refine ⟨untaken, unwritten, v, value, ?_⟩
    rw [get?_of_unwritten unwritten, get?_carried untaken unwritten, if_pos room, value]

theorem dropped_iff [Rule ρ] (shape : Shape) (here : key ∈ record.keys)
    (untaken : l.Untaken record key) :
    let out := Taking.putAll (l.takings record) ++ l.carried shape record
    l.Meets record out key .dropped ↔ ¬ l.Meets record out key .carried := by
  intro out
  constructor
  · rintro ⟨-, gone⟩ ⟨-, unwritten, v, -, goes⟩
    exact gone (List.mem_map_of_mem (Assoc.mem_of_get? goes)) unwritten
  · intro stays
    refine ⟨untaken, fun there unwritten => stays ((carried_iff here untaken).2 ⟨?_, unwritten⟩)⟩
    obtain ⟨v, goes⟩ := Option.isSome_iff_exists.1 (Assoc.has_iff.2 there)
    rw [get?_of_unwritten unwritten, get?_carried untaken unwritten] at goes
    cases room : shape.has key with
    | true => rfl
    | false => simp [room] at goes

theorem exists_unique_fate [Rule ρ] (here : key ∈ record.keys) :
    ∃! fate, l.Meets record (Taking.putAll (l.takings record) ++ l.carried shape record)
      key fate := by
  by_cases untaken : l.Untaken record key
  · have never : ∀ out, ¬ l.Meets record out key .taken := by
      rintro out ⟨t, ⟨member, same⟩, -⟩
      exact untaken t member same
    have dropped := dropped_iff shape here untaken
    by_cases goes : l.Meets record (Taking.putAll (l.takings record) ++ l.carried shape record)
        key .carried
    · refine ⟨.carried, goes, ?_⟩
      rintro (_ | _ | _) met
      · exact absurd met (never _)
      · rfl
      · exact absurd goes (dropped.1 met)
    · refine ⟨.dropped, dropped.2 goes, ?_⟩
      rintro (_ | _ | _) met
      · exact absurd met (never _)
      · exact absurd met goes
      · rfl
  · rw [untaken_iff, Classical.not_not, List.mem_map] at untaken
    obtain ⟨t, member, rfl⟩ := untaken
    refine ⟨.taken, taken_of_mem member, ?_⟩
    rintro (_ | _ | _) met
    · rfl
    · exact absurd rfl (met.1 t member)
    · exact absurd rfl (met.1 t member)

theorem get?_last [Rule ρ] {before after : List (Taking ρ)} {t : Taking ρ}
    (split : l.takings record = before ++ t :: after)
    (last : ∀ s ∈ after, s.target ≠ t.target) :
    Assoc.get? (Taking.putAll (l.takings record) ++ l.carried shape record) t.target =
      some (place (Taking.putAll before) t.field t.value) := by
  rw [Assoc.get?_append, split, Taking.get?_putAll_last last]
  rfl

theorem reshape_conserves [Rule ρ] (l : Layout ρ) (distinct : record.Distinct)
    (made : (Source.mapped l record).onto shape = .ok (some out)) :
    (∀ t ∈ l.takings record, (t.property, t.field) ∈ l.fields ∧
      record.get? t.key = some t.value ∧ (t.key = t.property ∨ t.field.source = some t.key)) ∧
    ((l.takings record).map Taking.key).Nodup ∧
    (∀ key ∈ record.keys, ∃! fate, l.Meets record out key fate) ∧
    (∀ key ∈ record.keys, l.Untaken record key →
      (l.Meets record out key .carried ↔ shape.has key = true ∧ l.Unwritten record key)) ∧
    (∀ key ∈ record.keys, key ∈ l.properties → l.Meets record out key .taken) ∧
    (∀ key ∈ out.keys, (∃ t ∈ l.takings record, t.target = key) ∨
      key ∈ record.keys ∧ l.Meets record out key .carried) ∧
    ∀ before t after, l.takings record = before ++ t :: after →
      (∀ s ∈ after, s.target ≠ t.target) →
      out.get? t.target = some (place (Taking.putAll before) t.field t.value) := by
  obtain ⟨_, reshaped, ⟨⟩⟩ := map_eq_ok_iff.1 made
  obtain ⟨-, rfl⟩ := (l.reshape_eq_ok_iff distinct shape).1 reshaped
  refine ⟨fun t => mem_takings, nodup_keys_takings, fun key here => exists_unique_fate here,
    fun key here untaken => carried_iff here untaken, ?_, ?_,
    fun before t after => get?_last⟩
  · intro key here property
    obtain ⟨p, declared, rfl⟩ := List.mem_map.1 property
    obtain ⟨v, value⟩ := Option.isSome_iff_exists.1 (Assoc.has_iff.2 here)
    have taken : p.1 ∈ [] ++ (l.takings record).map Taking.key := property_taken declared value
    obtain ⟨t, member, same⟩ := List.mem_map.1 taken
    rw [← same]
    exact taken_of_mem member
  · intro key there
    by_cases unwritten : l.Unwritten record key
    · rw [Assoc.keys_append, List.mem_append] at there
      have goes : key ∈ (l.carried shape record).keys := by
        refine there.resolve_left fun put => ?_
        obtain ⟨t, member, same⟩ := Taking.mem_keys_putAll.1 put
        exact unwritten t member same
      obtain ⟨p, kept, rfl⟩ := List.mem_map.1 goes
      obtain ⟨here, untaken, -, room⟩ := mem_carried kept
      have known : p.1 ∈ record.keys := List.mem_map_of_mem here
      exact .inr ⟨known, (carried_iff known untaken).2 ⟨room, unwritten⟩⟩
    · left
      simpa [Unwritten] using unwritten

open Directory in
theorem reshape_conserves_for_titles :
    let l : Layout StockRule := .ofFields "Person"
      [("nickname", { Field.column "name" with source := some "title" }),
       ("title", .column "label"), ("name", .column "label")]
    let shape := Shape.ofKeys ["age", "label", "name"]
    let record : Record := [("title", .string "Dr"), ("name", .string "Ann"),
      ("label", .null), ("age", .bool true), ("secret", .bool false)]
    let out : Record := [("name", .string "Dr"), ("label", .string "Ann"), ("age", .bool true)]
    record.Distinct ∧ (Source.mapped l record).onto shape = .ok (some out) ∧
    (∀ key ∈ record.keys, ∃! fate, l.Meets record out key fate) ∧
    l.Meets record out "title" .taken ∧ l.Meets record out "age" .carried ∧
    l.Meets record out "label" .dropped ∧ out.get? "label" = some (.string "Ann") := by
  intro l shape record out
  have distinct : record.Distinct := by decide
  have made : (Source.mapped l record).onto shape = .ok (some out) := rfl
  obtain ⟨-, -, fates, carries, properties, -, last⟩ := reshape_conserves l distinct made
  have takings : l.takings record =
      [⟨"nickname", { Field.column "name" with source := some "title" }, "title", .string "Dr"⟩,
       ⟨"name", .column "label", "name", .string "Ann"⟩] := rfl
  have age : l.Untaken record "age" ∧ l.Unwritten record "age" := by
    simp [Untaken, Unwritten, takings, Taking.target, Field.column, Field.of, Target.name]
  have label : l.Untaken record "label" ∧ ¬ l.Unwritten record "label" := by
    simp [Untaken, Unwritten, takings, Taking.target, Field.column, Field.of, Target.name]
  exact ⟨distinct, made, fates, properties "title" (by decide) (by decide),
    (carries "age" (by decide) age.1).2 ⟨rfl, age.2⟩, ⟨label.1, fun _ => label.2⟩,
    last [_] _ [] takings (by simp)⟩

end Layout

end FieldMapping
