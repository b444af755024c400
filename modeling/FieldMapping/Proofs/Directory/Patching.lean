import FieldMapping.Directory.Hierarchy
import FieldMapping.Proofs.Assignment.Written

/-! Entities of the directory patched through their written form. Each part of an entity is
read only from the value that it is written as, so every codec of the directory is stable. -/

namespace FieldMapping

open Assoc (keys)

namespace Json

def Reads {α : Type} (read : Value → Option α) (write : α → Value) : Prop :=
  ∀ v a, read v = some a → v = write a

section Parts
variable {α : Type} {read : Value → Option α} {write : α → Value}

theorem Reads.nullable (reads : Reads read write) :
    Reads (nullable? read) (Value.ofOption write) := by
  intro v a taken
  have some_of_map : ∀ v, (read v).map some = some a → v = Value.ofOption write a := by
    intro v taken
    obtain ⟨b, here, rfl⟩ := Option.map_eq_some_iff.1 taken
    exact reads v b here
  cases v with
  | null =>
    cases taken
    rfl
  | _ => exact some_of_map _ taken

variable {members : Record} {name : String}

theorem Reads.required (reads : Reads read write) {byName : Bool} {a : α}
    (taken : Parts.required? ⟨Assoc.get? members, byName⟩ name read = some a) :
    members.get? name = some (write a) := by
  obtain ⟨v, here, there⟩ := Option.bind_eq_some_iff.1 taken
  rw [← reads v a there]
  exact here

theorem Reads.optional (reads : Reads read write) {byName : Bool} {a : Option α}
    (known : name ∈ members.keys)
    (taken : Parts.optional? ⟨Assoc.get? members, byName⟩ name read = some a) :
    members.get? name = some (Value.ofOption write a) := by
  cases here : members.get? name with
  | none => exact absurd known (Assoc.get?_eq_none_iff.1 here)
  | some v =>
    have there : nullable? read v = some a := by simpa [Parts.optional?, here] using taken
    rw [reads.nullable v a there]

end Parts

theorem reads_text : Reads Value.text? .string := by
  rintro (_ | _ | _ | s | _ | _) a taken <;> cases taken
  rfl

theorem intIn?_eq_some_iff {low high i : Int} {v : Value} :
    intIn? low high v = some i ↔ (∃ bounds, v = .number (.int i bounds)) ∧ low ≤ i ∧ i ≤ high := by
  constructor
  · rcases v with _ | _ | (⟨j, bounds⟩ | _) | _ | _ | _
    case number.int =>
      intro taken
      obtain ⟨inside, same⟩ := Option.ite_none_right_eq_some.1 taken
      cases same
      exact ⟨⟨bounds, rfl⟩, inside⟩
    all_goals exact nofun
  · rintro ⟨⟨bounds, rfl⟩, inside⟩
    exact if_pos inside

end Json

namespace Directory

open Json (Reads reads_text)

theorem reads_int64 : Reads int64? ofInt64 := by
  intro v a taken
  obtain ⟨i, here, rfl⟩ := Option.map_eq_some_iff.1 taken
  obtain ⟨⟨bounds, rfl⟩, low, high⟩ := Json.intIn?_eq_some_iff.1 here
  have same : (Int64.ofInt i).toInt = i := Int64.toInt_ofInt_of_le low (by omega)
  simp only [ofInt64, same]

theorem reads_uint32 : Reads uint32? ofUInt32 := by
  intro v a taken
  obtain ⟨i, here, rfl⟩ := Option.map_eq_some_iff.1 taken
  obtain ⟨⟨bounds, rfl⟩, low, high⟩ := Json.intIn?_eq_some_iff.1 here
  have same : ((UInt32.ofNat i.toNat).toNat : Int) = i := by
    rw [UInt32.toNat_ofNat', Nat.mod_eq_of_lt (by omega)]
    omega
  simp only [ofUInt32, same]

theorem stable_of_parts {α : Type} {codec : Codec α} {parts : α → Record} (names : List String)
    (distinct : names.Nodup) (writes : ∀ a, codec.write a = some (.object (parts a)))
    (named : ∀ a, (parts a).keys = names)
    (reads : ∀ members b, (∀ name ∈ names, name ∈ keys members) →
      codec.read (.object members) = some b → ∀ p ∈ parts b, members.get? p.1 = some p.2) :
    codec.Stable := by
  intro a members other b written order read
  have same : members = parts a := by simpa [writes] using written.symm
  have known : other.keys = names := by rw [order, same, named]
  have apart : other.Distinct := by rwa [Assoc.Distinct, known]
  have found : ∀ p ∈ parts b, other.get? p.1 = some p.2 :=
    reads other b (fun name member => known ▸ member) read
  have form : parts b = other :=
    Assoc.eq_of_keys_of_get? ((named b).trans known.symm) apart found
  rw [writes, form]

theorem Person.stable : Codec.Stable ⟨Person.write, Person.read⟩ := by
  refine stable_of_parts
    ["id", "firstName", "lastName", "fullName", "team", "colId", "badge"]
    (by decide) (fun _ => rfl) (fun _ => rfl) fun members b known taken => ?_
  simp only [Person.read, Json.parts?, Option.bind_eq_bind, Option.bind_eq_some_iff,
    Option.some.injEq] at taken
  obtain ⟨_, rfl, id, hid, first, hfirst, last, hlast, full, hfull, team, hteam, column, hcolumn,
    badge, hbadge, rfl⟩ := taken
  simp only [List.forall_mem_cons]
  exact ⟨reads_int64.required hid, reads_text.required hfirst, reads_text.required hlast,
    reads_text.optional (known _ (by decide)) hfull,
    reads_int64.optional (known _ (by decide)) hteam,
    reads_text.optional (known _ (by decide)) hcolumn,
    reads_text.optional (known _ (by decide)) hbadge, by simp⟩

theorem Employee.stable : Employee.codec.Stable := by
  refine stable_of_parts ["id", "firstName", "lastName", "fullName", "employeeNumber"]
    (by decide) (fun _ => rfl) (fun _ => rfl) fun members b known taken => ?_
  simp only [Employee.codec, Employee.read, Json.parts?, Option.bind_eq_bind,
    Option.bind_eq_some_iff, Option.some.injEq] at taken
  obtain ⟨_, rfl, id, hid, first, hfirst, last, hlast, full, hfull, number, hnumber, rfl⟩ := taken
  simp only [List.forall_mem_cons]
  exact ⟨reads_int64.required hid, reads_text.required hfirst, reads_text.required hlast,
    reads_text.optional (known _ (by decide)) hfull, reads_text.required hnumber, by simp⟩

theorem Manager.stable : Manager.codec.Stable := by
  refine stable_of_parts ["id", "fullName", "reports"] (by decide) (fun _ => rfl) (fun _ => rfl)
    fun members b known taken => ?_
  simp only [Manager.codec, Manager.read, Json.parts?, Option.bind_eq_bind,
    Option.bind_eq_some_iff, Option.some.injEq] at taken
  obtain ⟨_, rfl, id, hid, full, hfull, reports, hreports, rfl⟩ := taken
  simp only [List.forall_mem_cons]
  exact ⟨reads_int64.required hid, reads_text.optional (known _ (by decide)) hfull,
    reads_uint32.required hreports, by simp⟩

theorem Contact.stable : Codec.Stable ⟨Contact.write, Contact.read⟩ := by
  refine stable_of_parts ["salutation", "name", "emailAddress", "internalNotes"] (by decide)
    (fun _ => rfl) (fun _ => rfl) fun members b _ taken => ?_
  simp only [Contact.read, Json.parts?, Option.bind_eq_bind,
    Option.bind_eq_some_iff, Option.some.injEq] at taken
  obtain ⟨_, rfl, salutation, hsalutation, name, hname, email, hemail, notes, hnotes, rfl⟩ := taken
  simp only [List.forall_mem_cons]
  exact ⟨reads_text.required hsalutation, reads_text.required hname, reads_text.required hemail,
    reads_text.required hnotes, by simp⟩

theorem ContactCard.stable : Codec.Stable ⟨ContactCard.write, ContactCard.read⟩ := by
  refine stable_of_parts ["title", "displayName", "email"] (by decide) (fun _ => rfl)
    (fun _ => rfl) fun members b _ taken => ?_
  simp only [ContactCard.read, Json.parts?, Option.bind_eq_bind,
    Option.bind_eq_some_iff, Option.some.injEq] at taken
  obtain ⟨_, rfl, title, htitle, name, hname, email, hemail, rfl⟩ := taken
  simp only [List.forall_mem_cons]
  exact ⟨reads_text.required htitle, reads_text.required hname, reads_text.required hemail,
    by simp⟩

theorem write_openCodec (v : Value) :
    openCodec.write v = if v.member? "$fail" = none then some v else none := by
  cases failing : v.member? "$fail" <;> simp [openCodec, failing]

theorem openCodec_stable : openCodec.Stable := by
  have written_iff : ∀ v w, openCodec.write v = some w ↔ v.member? "$fail" = none ∧ v = w := by
    intro v w
    rw [write_openCodec, Option.ite_none_right_eq_some, Option.some.injEq]
  have keyless_iff : ∀ r : Record, (Value.object r).member? "$fail" = none ↔ "$fail" ∉ r.keys :=
    fun r => Assoc.get?_eq_none_iff
  rintro a members other b written order ⟨⟩
  obtain ⟨free, rfl⟩ := (written_iff _ _).1 written
  rw [written_iff, keyless_iff, order, ← keyless_iff]
  exact ⟨free, rfl⟩

theorem stable : ∀ e : EntityType, (model e).codec.Stable
  | 0 => Person.stable
  | 1 => Employee.stable
  | 2 => Manager.stable
  | 3 => Contact.stable
  | 4 => ContactCard.stable
  | 5 | 6 | 7 | 8 => openCodec_stable

theorem patch_replaces_one (e : EntityType) (a : (model e).Carrier) (name property : String)
    (value : Value) :
    let codec := (model e).codec
    let outcome := (codec.patch name property value).run a
    (∀ b, outcome = .ok () b → ∃ before old after,
      codec.write a = some (.object (before ++ (property, old) :: after)) ∧
        property ∉ keys before ∧
        codec.write b = some (.object (before ++ (property, value) :: after))) ∧
    (∀ cause b, outcome = .error cause b → b = a) ∧
    (∀ entity named b, outcome = .error (.unknown entity named) b ↔
      ((entity = name ∧ named = property) ∧
        ∃ w, codec.write a = some w ∧ w.member? property = none) ∧ b = a) ∧
    assignWritten codec name a property value = match outcome with
      | .ok _ b => .ok b
      | .error cause _ => .error cause := by
  intro codec outcome
  refine ⟨fun b passed => ?_, fun cause b failed => ?_, fun entity named b => ?_, ?_⟩
  · have assigned := run_patch_eq_ok_iff.1 passed
    obtain ⟨members, written, known, patched⟩ := (stable e).write_of_assignWritten assigned
    obtain ⟨before, old, after, rfl, first, put⟩ := Assoc.exists_put_eq known value
    exact ⟨before, old, after, written, first, put ▸ patched⟩
  · exact (run_patch_eq_error_iff.1 failed).2
  · exact run_patch_eq_error_iff.trans (and_congr_left' assignWritten_eq_unknown_iff)
  · have run : outcome = _ := run_patch
    rw [run]
    cases assignWritten codec name a property value <;> rfl

theorem patch_replaces_one_for_manager :
    let m : Manager := ⟨7, none, 3⟩
    let run (property : String) (value : Value) :=
      (Manager.codec.patch "Manager" property value).run m
    (run "fullName" (.string "Jane Doe") = .ok () ⟨7, some "Jane Doe", 3⟩ ∧
      ∃ before old after,
        Manager.write m = some (.object (before ++ ("fullName", old) :: after)) ∧
        "fullName" ∉ keys before ∧
        Manager.write ⟨7, some "Jane Doe", 3⟩ =
          some (.object (before ++ ("fullName", .string "Jane Doe") :: after))) ∧
    run "nickname" .null = .error (.unknown "Manager" "nickname") m ∧
    (run "reports" (ofInt64 (-1)) = .error (.unreadable "reports") m) := by
  intro m run
  have passed : run "fullName" (.string "Jane Doe") = .ok () ⟨7, some "Jane Doe", 3⟩ := by rfl
  have unread : run "reports" (ofInt64 (-1)) = .error (.unreadable "reports") m := by rfl
  refine ⟨⟨passed, ?_⟩, ?_, unread⟩
  · exact (patch_replaces_one 2 m "Manager" "fullName" (.string "Jane Doe")).1 _ passed
  · exact ((patch_replaces_one 2 m "Manager" "nickname" .null).2.2.1 _ _ m).2
      ⟨⟨⟨rfl, rfl⟩, _, rfl, by decide⟩, rfl⟩

end Directory

end FieldMapping
