import FieldMapping.Directory.Rules
import FieldMapping.Proofs.Reshape.Taking

/-! What transforms get to see. A walk that keeps a log of its calls is the walk itself, and
field by field two walks find the same under the names of their next field and have put out
the same before it. So whatever else stands in the records, and whatever fields follow, the
transforms among the fields that two layouts start with are called alike. -/

namespace FieldMapping

structure Transform.Call (ρ : Type) where
  place : Nat
  transform : Transform ρ
  output : Record
  value : Value
deriving DecidableEq

def Transform.Call.answer {ρ : Type} [Rule ρ] (c : Transform.Call ρ) : Value :=
  Rule.apply c.transform.rule c.output c.value

namespace Layout
variable {ρ : Type}

def AgreeOn (fields : List (String × Field ρ)) (r s : Record) : Prop :=
  ∀ p ∈ fields, ∀ name ∈ namesOf p, s.get? name = r.get? name

instance (fields : List (String × Field ρ)) (r s : Record) : Decidable (AgreeOn fields r s) :=
  inferInstanceAs (Decidable (∀ p ∈ fields, ∀ name ∈ namesOf p, s.get? name = r.get? name))

namespace AgreeOn
variable {fields : List (String × Field ρ)} {p : String × Field ρ} {r s : Record}

theorem of_cons (agree : AgreeOn (p :: fields) r s) : AgreeOn fields r s :=
  fun q declared => agree q (List.mem_cons_of_mem p declared)

theorem remove (agree : AgreeOn fields r s) (distinct : r.Distinct) (distinct' : s.Distinct)
    (key : String) : AgreeOn fields (r.remove key) (s.remove key) := by
  intro q declared name named
  rw [Assoc.get?_remove distinct, Assoc.get?_remove distinct', agree q declared name named]

theorem take (agree : AgreeOn (p :: fields) r s) (distinct : r.Distinct) (distinct' : s.Distinct) :
    Layout.take r p.1 p.2 = none ∧ Layout.take s p.1 p.2 = none ∨
      ∃ key v, Layout.take r p.1 p.2 = some (v, r.remove key) ∧
        Layout.take s p.1 p.2 = some (v, s.remove key) := by
  rw [take_eq distinct, take_eq distinct', pick_congr (agree p List.mem_cons_self)]
  cases pick r [] p with
  | none => exact .inl ⟨rfl, rfl⟩
  | some q => exact .inr ⟨q.1, q.2, rfl, rfl⟩

end AgreeOn

variable [Rule ρ]

/-- The call that a field makes, if it has a transform, and the value that it puts out. -/
def placing (i : Nat) (output : Record) (field : Field ρ) (v : Value) :
    List (Transform.Call ρ) × Value :=
  match field.target.transform? with
  | some t =>
    let c : Transform.Call ρ := ⟨i, t, output, v⟩
    ([c], c.answer)
  | none => ([], v)

def logged (entity : String) (shape : Shape) : Nat → List (String × Field ρ) → Record → Record →
    List (Transform.Call ρ) × Except UndeclaredTarget (Record × Record)
  | _, [], rest, output => ([], .ok (rest, output))
  | i, (property, field) :: fields, rest, output =>
    match take rest property field with
    | none => logged entity shape (i + 1) fields rest output
    | some (v, rest) =>
      if shape.has field.target.name then
        let placed := placing i output field v
        let later := logged entity shape (i + 1) fields rest
          (output.put field.target.name placed.2)
        (placed.1 ++ later.1, later.2)
      else ([], .error ⟨entity, property, field.target.name⟩)

def traced (l : Layout ρ) (record : Record) (shape : Shape) :
    List (Transform.Call ρ) × Except UndeclaredTarget Record :=
  let walked := logged l.entity shape 0 l.fields record []
  (walked.1, walked.2.map fun (rest, output) => carry shape output rest)

theorem placing_snd (i : Nat) (output : Record) (field : Field ρ) (v : Value) :
    (placing i output field v).2 = place output field v := by
  unfold placing place
  cases field.target.transform? <;> rfl

variable {entity : String} {shape : Shape}

theorem logged_snd (i : Nat) (fields : List (String × Field ρ)) (rest output : Record) :
    (logged entity shape i fields rest output).2 = walk entity shape fields rest output := by
  induction fields generalizing i rest output with
  | nil => rfl
  | cons p fields ih =>
    cases taken : take rest p.1 p.2 with
    | none => simp [logged, walk, taken, ih]
    | some q =>
      by_cases room : shape.has p.2.target.name = true <;>
        simp [logged, walk, taken, room, ih, placing_snd]

theorem traced_snd (l : Layout ρ) (record : Record) (shape : Shape) :
    (l.traced record shape).2 = l.reshape record shape := by
  rw [traced, logged_snd]
  rfl

theorem le_place_of_mem_logged {i : Nat} {fields : List (String × Field ρ)}
    {rest output : Record} {c : Transform.Call ρ}
    (member : c ∈ (logged entity shape i fields rest output).1) : i ≤ c.place := by
  induction fields generalizing i rest output with
  | nil => simp [logged] at member
  | cons p fields ih =>
    cases taken : take rest p.1 p.2 with
    | none =>
      have later : i + 1 ≤ c.place := ih (by simpa [logged, taken] using member)
      omega
    | some q =>
      by_cases room : shape.has p.2.target.name = true
      · simp only [logged, taken, room, if_true, List.mem_append] at member
        rcases member with own | later
        · unfold placing at own
          cases made : p.2.target.transform? with
          | none => simp [made] at own
          | some t =>
            rw [made, List.mem_singleton] at own
            simp [own]
        · have later : i + 1 ≤ c.place := ih later
          omega
      · simp [logged, taken, room] at member

theorem filter_logged_eq_nil (i : Nat) (fields : List (String × Field ρ)) (rest output : Record) :
    (logged entity shape i fields rest output).1.filter (fun c => c.place < i) = [] := by
  rw [List.filter_eq_nil_iff]
  intro c member
  have bound := le_place_of_mem_logged member
  simpa using bound

theorem filter_logged_eq {entity' : String} (n : Nat) (i : Nat)
    {fields fields' : List (String × Field ρ)} (start : fields'.take n = fields.take n)
    {rest rest' : Record} (distinct : rest.Distinct) (distinct' : rest'.Distinct)
    (agree : AgreeOn (fields.take n) rest rest') (output : Record) :
    (logged entity' shape i fields' rest' output).1.filter (fun c => c.place < i + n) =
      (logged entity shape i fields rest output).1.filter (fun c => c.place < i + n) := by
  induction n generalizing i fields fields' rest rest' output with
  | zero => rw [Nat.add_zero, filter_logged_eq_nil, filter_logged_eq_nil]
  | succ n ih =>
    cases fields with
    | nil =>
      have none : fields' = [] := by simpa using start
      rw [none]
      rfl
    | cons p fields =>
      cases fields' with
      | nil => simp at start
      | cons p' fields' =>
        simp only [List.take_succ_cons, List.cons.injEq] at start
        obtain ⟨rfl, start⟩ := start
        rw [List.take_succ_cons] at agree
        have next : i + (n + 1) = i + 1 + n := by omega
        rcases agree.take distinct distinct' with ⟨none, none'⟩ | ⟨key, v, taken, taken'⟩
        · simp only [logged, none, none', next]
          exact ih (i + 1) start distinct distinct' agree.of_cons output
        · by_cases room : shape.has p'.2.target.name = true
          · simp only [logged, taken, taken', room, if_true, List.filter_append, next]
            have left := Assoc.distinct_remove distinct key
            have left' := Assoc.distinct_remove distinct' key
            rw [ih (i + 1) start left left' (agree.of_cons.remove distinct distinct' key)]
          · simp [logged, taken, taken', room]

/-- The transforms among the first fields are called alike, with what has been put out and
with the value, be there a field without room among them or not. -/
theorem calls_of_first_fields {l l' : Layout ρ} {record record' : Record}
    (distinct : record.Distinct) (distinct' : record'.Distinct) (shape : Shape) (n : Nat)
    (start : l'.fields.take n = l.fields.take n)
    (agree : AgreeOn (l.fields.take n) record record') :
    (l.traced record shape).2 = l.reshape record shape ∧
    (l'.traced record' shape).2 = l'.reshape record' shape ∧
    (l'.traced record' shape).1.filter (fun c => c.place < n) =
      (l.traced record shape).1.filter (fun c => c.place < n) := by
  refine ⟨l.traced_snd record shape, l'.traced_snd record' shape, ?_⟩
  have same : (logged l'.entity shape 0 l'.fields record' []).1.filter (fun c => c.place < 0 + n) =
      (logged l.entity shape 0 l.fields record []).1.filter (fun c => c.place < 0 + n) :=
    filter_logged_eq n 0 start distinct distinct' agree []
  rwa [Nat.zero_add] at same

open Directory in
theorem calls_of_first_fields_of_products :
    let first : List (String × Field StockRule) :=
      [("code", .column "id"),
       ("trace", { Field.of (.extended "seen" (some ⟨"keys", .keys⟩)) with source := some "trail" })]
    let l : Layout StockRule := .ofFields "Product" (first ++ [("unit", .column "unit")])
    let l' : Layout StockRule := .ofFields "Part"
      (first ++ [("number", { Field.of (.extended "unit" (some ⟨"wrap", .wrap⟩)) with
        source := some "code" })])
    let record : Record := [("unit", .string "kg"), ("code", .string "W1"), ("trail", .null)]
    let record' : Record := [("trail", .null), ("number", .bool true), ("code", .string "W1"),
      ("seen", .bool false)]
    let shape := Shape.ofKeys ["id", "seen", "unit"]
    let call : Transform.Call StockRule := ⟨1, ⟨"keys", .keys⟩, [("id", .string "W1")], .null⟩
    record.Distinct ∧ record'.Distinct ∧ l'.fields.take 2 = l.fields.take 2 ∧
      AgreeOn (l.fields.take 2) record record' ∧
      (l'.traced record' shape).1.length = 2 ∧
      (l.traced record shape).1.filter (fun c => c.place < 2) = [call] ∧
      (l'.traced record' shape).1.filter (fun c => c.place < 2) = [call] := by
  intro first l l' record record' shape call
  have distinct : record.Distinct := by decide
  have distinct' : record'.Distinct := by decide
  have start : l'.fields.take 2 = l.fields.take 2 := rfl
  have agree : AgreeOn (l.fields.take 2) record record' := by decide
  have made : (l.traced record shape).1.filter (fun c => c.place < 2) = [call] := rfl
  obtain ⟨-, -, same⟩ := calls_of_first_fields distinct distinct' shape 2 start agree
  exact ⟨distinct, distinct', start, agree, rfl, made, same.trans made⟩

end Layout

end FieldMapping
