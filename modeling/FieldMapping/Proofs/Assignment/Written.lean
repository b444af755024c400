import FieldMapping.Assignment

/-! Patching an entity through its written form. One member of the form is replaced in its
place and the whole is read again, so what becomes of the other members hangs on the codec:
a stable one reads a form with the keys of a written one only as an entity that is written
in just that form. All codecs of the directory are stable. An entity is then either left as
it was or written as before but for one value. -/

namespace FieldMapping

open Assoc (keys)

namespace Assoc

theorem exists_put_eq {α : Type} {r : Assoc α} {key : String} (known : key ∈ r.keys) (value : α) :
    ∃ before old after, r = before ++ (key, old) :: after ∧ key ∉ keys before ∧
      r.put key value = before ++ (key, value) :: after := by
  induction r with
  | nil => simp at known
  | cons p r ih =>
    obtain ⟨k, v⟩ := p
    by_cases same : k = key
    · subst same
      exact ⟨[], v, r, rfl, by simp, by simp [put]⟩
    · have later : key ∈ keys r := by simpa [Ne.symm same] using known
      obtain ⟨before, old, after, rfl, new, written⟩ := ih later
      refine ⟨(k, v) :: before, old, after, rfl, by simp [new, Ne.symm same], ?_⟩
      simp [put, same, written]

end Assoc

/-- A form with the keys of a written one is read only as what is written so. -/
def Codec.Stable {α : Type} (codec : Codec α) : Prop :=
  ∀ a members other b, codec.write a = some (.object members) → keys other = keys members →
    codec.read (.object other) = some b → codec.write b = some (.object other)

/-- The same in place. The entity is set at the very end, and a step that fails before
leaves behind what it finds. -/
def Codec.patch {α : Type} (codec : Codec α) (entity property : String) (value : Value) :
    EStateM AssignError α Unit := do
  let some written := codec.write (← get) | throw (.unwritable property)
  let .object members := written | throw (.unknown entity property)
  if Assoc.has members property then
    let some b := codec.read (.object (Assoc.put members property value))
      | throw (.unreadable property)
    set b
  else throw (.unknown entity property)

section Written
variable {α : Type} {codec : Codec α} {entity property : String} {value : Value} {a b : α}

theorem run_patch : (codec.patch entity property value).run a =
    match assignWritten codec entity a property value with
    | .ok b => .ok () b
    | .error e => .error e a := by
  cases written : codec.write a with
  | none => simp [Codec.patch, assignWritten, written]
  | some w =>
    cases w with
    | object members =>
      cases has : Assoc.has members property with
      | true =>
        cases read : codec.read (.object (Assoc.put members property value)) <;>
          simp [Codec.patch, assignWritten, written, has, read]
      | false => simp [Codec.patch, assignWritten, written, has]
    | _ => simp [Codec.patch, assignWritten, written]

theorem run_patch_eq_ok_iff :
    (codec.patch entity property value).run a = .ok () b ↔
      assignWritten codec entity a property value = .ok b := by
  rw [run_patch]
  cases assignWritten codec entity a property value <;> simp

theorem run_patch_eq_error_iff {e : AssignError} :
    (codec.patch entity property value).run a = .error e b ↔
      assignWritten codec entity a property value = .error e ∧ b = a := by
  rw [run_patch]
  cases assignWritten codec entity a property value <;> simp [eq_comm]

theorem assignWritten_eq_ok_iff :
    assignWritten codec entity a property value = .ok b ↔
      ∃ members, codec.write a = some (.object members) ∧ property ∈ keys members ∧
        codec.read (.object (Assoc.put members property value)) = some b := by
  cases written : codec.write a with
  | none => simp [assignWritten, written]
  | some w =>
    cases w with
    | object members =>
      by_cases known : property ∈ keys members
      · have has : Assoc.has members property = true := Assoc.has_iff.2 known
        cases read : codec.read (.object (Assoc.put members property value)) <;>
          simp [assignWritten, written, has, known, read]
      · have has : Assoc.has members property = false := by
          rw [Bool.eq_false_iff, ne_eq, Assoc.has_iff]
          exact known
        simp [assignWritten, written, has, known]
    | _ => simp [assignWritten, written]

theorem assignWritten_eq_unknown_iff {other named : String} :
    assignWritten codec entity a property value = .error (.unknown other named) ↔
      (other = entity ∧ named = property) ∧
        ∃ w, codec.write a = some w ∧ w.member? property = none := by
  cases written : codec.write a with
  | none => simp [assignWritten, written]
  | some w =>
    cases w with
    | object members =>
      cases known : Assoc.get? members property with
      | none =>
        simp [assignWritten, written, Assoc.has, known, Value.member?, Value.members?, eq_comm]
      | some old =>
        -- the key is there, so whatever comes of reading, the property was no stranger
        cases taken : codec.read (.object (Assoc.put members property value)) <;>
          simp [assignWritten, written, Assoc.has, known, taken, Value.member?, Value.members?]
    | _ => simp [assignWritten, written, Value.member?, Value.members?, eq_comm]

theorem Codec.Stable.write_of_assignWritten (stable : codec.Stable)
    (assigned : assignWritten codec entity a property value = .ok b) :
    ∃ members, codec.write a = some (.object members) ∧ property ∈ keys members ∧
      codec.write b = some (.object (Assoc.put members property value)) := by
  obtain ⟨members, written, known, read⟩ := assignWritten_eq_ok_iff.1 assigned
  have order : keys (Assoc.put members property value) = keys members := by
    rw [Assoc.keys_put, if_pos known]
  exact ⟨members, written, known, stable a members _ b written order read⟩

end Written

end FieldMapping
