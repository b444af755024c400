import FieldMapping.Reshape

/-! Which field takes which value of a record, said without the walk: the record stays as
it is, and a field takes the first of its names that is a key of the record and that no
field before it has taken. The walk fails at the first field that takes a value and has a
target for which the shape has no key, and else puts out the value of every field that
takes one. What it puts out is never nothing. -/

namespace FieldMapping

namespace Assoc
variable {α : Type}

def without (r : Assoc α) (gone : List String) : Assoc α := r.filter fun p => p.1 ∉ gone

@[simp] theorem without_nil (r : Assoc α) : r.without [] = r := by
  simp [without]

theorem get?_without (r : Assoc α) (gone : List String) (key : String) :
    (r.without gone).get? key = if key ∈ gone then none else r.get? key := by
  rw [without, get?_filter r fun k => k ∉ gone]
  by_cases out : key ∈ gone <;> simp [out]

theorem remove_without {r : Assoc α} (distinct : r.Distinct) (gone : List String)
    (key : String) : (r.without gone).remove key = r.without (gone ++ [key]) := by
  rw [without, without, remove_eq_filter (distinct_filter distinct _), List.filter_filter]
  refine List.filter_congr fun p _ => ?_
  simp [and_comm]

end Assoc

structure Taking (ρ : Type) where
  property : String
  field : Field ρ
  key : String
  value : Value

namespace Taking
variable {ρ : Type}

def target (t : Taking ρ) : String := t.field.target.name

def put [Rule ρ] (output : Record) (t : Taking ρ) : Record :=
  Assoc.put output t.target (Layout.place output t.field t.value)

def putAll [Rule ρ] (ts : List (Taking ρ)) : Record := ts.foldl put []

theorem foldl_put_eq [Rule ρ] (ts : List (Taking ρ)) (output : Record) :
    ∃ pairs : List (String × Value), Assoc.keys pairs = ts.map target ∧
      ts.foldl put output = Assoc.putAll output pairs := by
  induction ts generalizing output with
  | nil => exact ⟨[], rfl, rfl⟩
  | cons t ts ih =>
    obtain ⟨pairs, keys, rest⟩ := ih (put output t)
    exact ⟨(t.target, Layout.place output t.field t.value) :: pairs, by simp [keys], rest⟩

theorem keys_putAll [Rule ρ] (ts : List (Taking ρ)) :
    Assoc.keys (putAll ts) = (ts.map target).eraseDups := by
  obtain ⟨pairs, keys, all⟩ := foldl_put_eq ts []
  have new : (ts.map target).filter (fun key => key ∉ Assoc.keys ([] : Record)) =
      ts.map target := List.filter_eq_self.2 (by simp)
  rw [putAll, all, Assoc.keys_putAll, keys, new]
  rfl

theorem mem_keys_putAll [Rule ρ] {ts : List (Taking ρ)} {key : String} :
    key ∈ Assoc.keys (putAll ts) ↔ ∃ t ∈ ts, t.target = key := by
  rw [keys_putAll, List.mem_eraseDups, List.mem_map]

theorem get?_putAll_last [Rule ρ] {before after : List (Taking ρ)} {t : Taking ρ}
    (last : ∀ s ∈ after, s.target ≠ t.target) :
    Assoc.get? (putAll (before ++ t :: after)) t.target =
      some (Layout.place (putAll before) t.field t.value) := by
  obtain ⟨pairs, keys, rest⟩ := foldl_put_eq after (put (putAll before) t)
  have later : t.target ∉ Assoc.keys pairs := by
    rw [keys, List.mem_map]
    rintro ⟨s, hs, same⟩
    exact last s hs same
  have all : putAll (before ++ t :: after) = after.foldl put (put (putAll before) t) := by
    rw [putAll, List.foldl_append]
    rfl
  rw [all, rest, Assoc.get?_putAll_of_not_mem later, put, Assoc.get?_put, if_pos rfl]

end Taking

namespace Layout
variable {ρ : Type}

def pairAt (record : Record) (gone : List String) (key : String) : Option (String × Value) :=
  if key ∈ gone then none else (record.get? key).map fun v => (key, v)

/-- What a field finds under its property, or else under its source name, where the keys
in `gone` have been taken before. -/
def pick (record : Record) (gone : List String) (p : String × Field ρ) :
    Option (String × Value) :=
  (pairAt record gone p.1).or (p.2.source.bind (pairAt record gone))

/-- What the fields take, in their order, and after the keys in `gone`. -/
def takingsFrom (record : Record) (gone : List String) :
    List (String × Field ρ) → List (Taking ρ)
  | [] => []
  | p :: fields =>
    match pick record gone p with
    | none => takingsFrom record gone fields
    | some (key, v) => ⟨p.1, p.2, key, v⟩ :: takingsFrom record (gone ++ [key]) fields

variable {record : Record} {gone : List String} {fields : List (String × Field ρ)}

theorem takingsFrom_of_none {p : String × Field ρ} (nothing : pick record gone p = none) :
    takingsFrom record gone (p :: fields) = takingsFrom record gone fields := by
  rw [takingsFrom, nothing]

theorem takingsFrom_of_some {p : String × Field ρ} {key : String} {v : Value}
    (found : pick record gone p = some (key, v)) :
    takingsFrom record gone (p :: fields) =
      ⟨p.1, p.2, key, v⟩ :: takingsFrom record (gone ++ [key]) fields := by
  rw [takingsFrom, found]

theorem pairAt_eq_some_iff {name key : String} {v : Value} :
    pairAt record gone name = some (key, v) ↔
      key = name ∧ key ∉ gone ∧ record.get? key = some v := by
  unfold pairAt
  split
  · next out =>
    refine ⟨nofun, ?_⟩
    rintro ⟨rfl, free, -⟩
    exact absurd out free
  · next free =>
    simp only [Option.map_eq_some_iff, Prod.mk.injEq]
    constructor
    · rintro ⟨w, here, rfl, rfl⟩
      exact ⟨rfl, free, here⟩
    · rintro ⟨rfl, -, here⟩
      exact ⟨v, here, rfl, rfl⟩

theorem pick_eq_some {p : String × Field ρ} {key : String} {v : Value}
    (found : pick record gone p = some (key, v)) :
    record.get? key = some v ∧ key ∉ gone ∧ (key = p.1 ∨ p.2.source = some key) := by
  rcases Option.or_eq_some_iff.1 found with own | ⟨-, other⟩
  · obtain ⟨named, free, here⟩ := pairAt_eq_some_iff.1 own
    exact ⟨here, free, .inl named⟩
  · obtain ⟨name, source, there⟩ := Option.bind_eq_some_iff.1 other
    obtain ⟨rfl, free, here⟩ := pairAt_eq_some_iff.1 there
    exact ⟨here, free, .inr source⟩

theorem pick_property {p : String × Field ρ} (free : p.1 ∉ gone) {v : Value}
    (here : record.get? p.1 = some v) : pick record gone p = some (p.1, v) := by
  rw [pick, pairAt_eq_some_iff.2 ⟨rfl, free, here⟩]
  rfl

def namesOf (p : String × Field ρ) : List String := p.1 :: p.2.source.toList

theorem pick_congr {other : Record} {p : String × Field ρ}
    (same : ∀ name ∈ namesOf p, other.get? name = record.get? name) (gone : List String) :
    pick other gone p = pick record gone p := by
  have pairs : ∀ name ∈ namesOf p, pairAt other gone name = pairAt record gone name := by
    intro name named
    rw [pairAt, pairAt, same name named]
  have own : pairAt other gone p.1 = pairAt record gone p.1 := pairs p.1 List.mem_cons_self
  cases source : p.2.source with
  | none => simp [pick, source, own]
  | some name =>
    have there : pairAt other gone name = pairAt record gone name :=
      pairs name (by simp [namesOf, source])
    simp [pick, source, own, there]

theorem pairAt_eq (record : Record) (gone : List String) :
    pairAt record gone = fun key => ((record.without gone).get? key).map fun v => (key, v) := by
  funext key
  rw [pairAt, Assoc.get?_without]
  split <;> rfl

theorem take_without (distinct : record.Distinct) (gone : List String)
    (p : String × Field ρ) :
    take (record.without gone) p.1 p.2 =
      (pick record gone p).map fun q => (q.2, record.without (gone ++ [q.1])) := by
  simp only [pick, take, pairAt_eq, Assoc.remove_without distinct]
  cases own : (record.without gone).get? p.1 with
  | some v => rfl
  | none =>
    cases p.2.source with
    | none => rfl
    | some s => cases other : (record.without gone).get? s <;> simp [other]

theorem take_eq (distinct : record.Distinct) (p : String × Field ρ) :
    take record p.1 p.2 = (pick record [] p).map fun q => (q.2, record.remove q.1) := by
  have taken := take_without distinct [] p
  simp only [← Assoc.remove_without distinct, Assoc.without_nil] at taken
  exact taken

theorem walk_without [Rule ρ] (entity : String) (shape : Shape) (distinct : record.Distinct)
    (gone : List String) (fields : List (String × Field ρ)) (output : Record) :
    walk entity shape fields (record.without gone) output =
      match (takingsFrom record gone fields).find? fun t => !shape.has t.target with
      | some t => .error ⟨entity, t.property, t.target⟩
      | none => .ok (record.without (gone ++ (takingsFrom record gone fields).map Taking.key),
          (takingsFrom record gone fields).foldl Taking.put output) := by
  induction fields generalizing gone output with
  | nil => simp [walk, takingsFrom]
  | cons p fields ih =>
    rw [walk, take_without distinct]
    cases found : pick record gone p with
    | none =>
      rw [takingsFrom_of_none found, Option.map_none]
      exact ih gone output
    | some q =>
      obtain ⟨key, v⟩ := q
      rw [takingsFrom_of_some found, Option.map_some]
      by_cases room : shape.has p.2.target.name = true
      · simp [room, ih, Taking.target, Taking.put]
      · simp [room, Taking.target]

theorem mem_takingsFrom {t : Taking ρ} (member : t ∈ takingsFrom record gone fields) :
    record.get? t.key = some t.value ∧ t.key ∉ gone ∧ (t.property, t.field) ∈ fields ∧
      (t.key = t.property ∨ t.field.source = some t.key) := by
  induction fields generalizing gone with
  | nil => cases member
  | cons p fields ih =>
    cases found : pick record gone p with
    | none =>
      rw [takingsFrom_of_none found] at member
      obtain ⟨here, free, declared, named⟩ := ih member
      exact ⟨here, free, List.mem_cons_of_mem p declared, named⟩
    | some q =>
      rw [takingsFrom_of_some found] at member
      rcases List.mem_cons.1 member with rfl | later
      · obtain ⟨here, free, named⟩ := pick_eq_some found
        exact ⟨here, free, List.mem_cons_self, named⟩
      · obtain ⟨here, free, declared, named⟩ := ih later
        rw [List.mem_append, not_or] at free
        exact ⟨here, free.1, List.mem_cons_of_mem p declared, named⟩

theorem nodup_keys_takingsFrom :
    ((takingsFrom record gone fields).map Taking.key).Nodup := by
  induction fields generalizing gone with
  | nil => exact List.nodup_nil
  | cons p fields ih =>
    cases found : pick record gone p with
    | none =>
      rw [takingsFrom_of_none found]
      exact ih
    | some q =>
      rw [takingsFrom_of_some found, List.map_cons, List.nodup_cons]
      refine ⟨fun again => ?_, ih⟩
      obtain ⟨t, member, same⟩ := List.mem_map.1 again
      obtain ⟨-, free, -, -⟩ := mem_takingsFrom member
      exact free (by simp [same])

/-- What stands under a property is taken by that field at the latest. -/
theorem property_taken {p : String × Field ρ} (declared : p ∈ fields) {v : Value}
    (here : record.get? p.1 = some v) :
    p.1 ∈ gone ++ (takingsFrom record gone fields).map Taking.key := by
  induction fields generalizing gone with
  | nil => cases declared
  | cons q fields ih =>
    rcases List.mem_cons.1 declared with rfl | later
    · by_cases free : p.1 ∈ gone
      · exact List.mem_append_left _ free
      · rw [takingsFrom_of_some (pick_property free here)]
        simp
    · cases found : pick record gone q with
      | none =>
        rw [takingsFrom_of_none found]
        exact ih later
      | some r =>
        rw [takingsFrom_of_some found]
        have taken : p.1 ∈ (gone ++ [r.1]) ++
            (takingsFrom record (gone ++ [r.1]) fields).map Taking.key := ih later
        simpa using taken

def takings (l : Layout ρ) (record : Record) : List (Taking ρ) := takingsFrom record [] l.fields

variable {l : Layout ρ} {shape : Shape} {key : String}

theorem mem_takings {t : Taking ρ} (member : t ∈ l.takings record) :
    (t.property, t.field) ∈ l.fields ∧ record.get? t.key = some t.value ∧
      (t.key = t.property ∨ t.field.source = some t.key) := by
  obtain ⟨here, -, declared, named⟩ := mem_takingsFrom member
  exact ⟨declared, here, named⟩

theorem nodup_keys_takings : ((l.takings record).map Taking.key).Nodup :=
  nodup_keys_takingsFrom

def Untaken (l : Layout ρ) (record : Record) (key : String) : Prop :=
  ∀ t ∈ l.takings record, t.key ≠ key

def Unwritten (l : Layout ρ) (record : Record) (key : String) : Prop :=
  ∀ t ∈ l.takings record, t.target ≠ key

theorem untaken_iff : l.Untaken record key ↔ key ∉ (l.takings record).map Taking.key := by
  simp [Untaken]

theorem unwritten_iff :
    l.Unwritten record key ↔ key ∉ (l.takings record).map Taking.target := by
  simp [Unwritten]

def leftover (l : Layout ρ) (record : Record) : Record :=
  record.without ((l.takings record).map Taking.key)

theorem distinct_leftover (l : Layout ρ) (distinct : record.Distinct) :
    (l.leftover record).Distinct :=
  Assoc.distinct_filter distinct _

def carried (l : Layout ρ) (shape : Shape) (record : Record) : Record :=
  (l.leftover record).filter fun p =>
    shape.has p.1 && p.1 ∉ (l.takings record).map Taking.target

theorem distinct_carried (l : Layout ρ) (shape : Shape) (distinct : record.Distinct) :
    (l.carried shape record).Distinct :=
  Assoc.distinct_filter (l.distinct_leftover distinct) _

theorem mem_carried {p : String × Value} (member : p ∈ l.carried shape record) :
    p ∈ record ∧ l.Untaken record p.1 ∧ l.Unwritten record p.1 ∧ shape.has p.1 = true := by
  obtain ⟨left, kept⟩ := List.mem_filter.1 member
  obtain ⟨here, free⟩ := List.mem_filter.1 left
  simp only [Bool.and_eq_true, decide_eq_true_eq] at kept free
  exact ⟨here, untaken_iff.2 free, unwritten_iff.2 kept.2, kept.1⟩

theorem carry_eq (shape : Shape) {rest : Record} (distinct : rest.Distinct) (output : Record) :
    carry shape output rest =
      output ++ rest.filter fun p => shape.has p.1 && !output.has p.1 := by
  induction rest generalizing output with
  | nil => simp [carry]
  | cons p rest ih =>
    obtain ⟨k, v⟩ := p
    have apart : k ∉ Assoc.keys rest ∧ Assoc.Distinct rest := List.nodup_cons.1 distinct
    cases room : shape.has k && !output.has k with
    | false =>
      rw [carry, room, List.filter_cons_of_neg (by simp [room])]
      exact ih apart.2 output
    | true =>
      have new : k ∉ output.keys := by
        rw [← Assoc.has_iff]
        simp_all
      -- no other leftover has this key, so they meet the same output as before
      have same : rest.filter (fun p => shape.has p.1 && !Assoc.has (output ++ [(k, v)]) p.1) =
          rest.filter fun p => shape.has p.1 && !output.has p.1 := by
        refine List.filter_congr fun p hp => ?_
        have other : k ≠ p.1 := by
          rintro rfl
          exact apart.1 (List.mem_map_of_mem hp)
        simp [Assoc.has, Assoc.get?_append, Assoc.get?, other]
      rw [carry, room, if_pos rfl, Assoc.put_of_not_mem new, ih apart.2, same,
        List.filter_cons_of_pos (by simp [room])]
      simp

theorem carry_leftover [Rule ρ] (l : Layout ρ) (distinct : record.Distinct) (shape : Shape) :
    carry shape (Taking.putAll (l.takings record)) (l.leftover record) =
      Taking.putAll (l.takings record) ++ l.carried shape record := by
  rw [carry_eq shape (l.distinct_leftover distinct), carried]
  refine congrArg _ (List.filter_congr fun p _ => ?_)
  have put : Assoc.has (Taking.putAll (l.takings record)) p.1 =
      decide (p.1 ∈ (l.takings record).map Taking.target) := by
    rw [Bool.eq_iff_iff, Assoc.has_iff, Taking.mem_keys_putAll, decide_eq_true_iff, List.mem_map]
  rw [put, decide_not]

/-- The whole of it: the first field without room fails, and else the fields' values come
first and the leftovers that the shape has room for behind them. -/
theorem reshape_eq [Rule ρ] (l : Layout ρ) (distinct : record.Distinct) (shape : Shape) :
    l.reshape record shape =
      match (l.takings record).find? fun t => !shape.has t.target with
      | some t => .error ⟨l.entity, t.property, t.target⟩
      | none => .ok (Taking.putAll (l.takings record) ++ l.carried shape record) := by
  have walked := walk_without l.entity shape distinct [] l.fields []
  rw [Assoc.without_nil] at walked
  rw [reshape, walked, ← carry_leftover l distinct shape]
  unfold leftover takings
  cases (takingsFrom record [] l.fields).find? fun t => !shape.has t.target <;> rfl

theorem reshape_eq_error_iff [Rule ρ] (l : Layout ρ) (distinct : record.Distinct)
    (shape : Shape) {e : UndeclaredTarget} :
    l.reshape record shape = .error e ↔
      ∃ before t after, l.takings record = before ++ t :: after ∧
        (∀ s ∈ before, shape.has s.target = true) ∧ shape.has t.target = false ∧
        e = ⟨l.entity, t.property, t.target⟩ := by
  rw [reshape_eq l distinct]
  constructor
  · intro failed
    cases first : (l.takings record).find? fun t => !shape.has t.target with
    | none => simp [first] at failed
    | some t =>
      obtain ⟨room, before, after, split, others⟩ := List.find?_eq_some_iff_append.1 first
      have same : (⟨l.entity, t.property, t.target⟩ : UndeclaredTarget) = e := by
        simpa [first] using failed
      exact ⟨before, t, after, split, by simpa using others, by simpa using room, same.symm⟩
  · rintro ⟨before, t, after, split, others, room, rfl⟩
    have first : (l.takings record).find? (fun t => !shape.has t.target) = some t :=
      List.find?_eq_some_iff_append.2 ⟨by simp [room], before, after, split, by simpa using others⟩
    rw [first]

theorem reshape_eq_ok_iff [Rule ρ] (l : Layout ρ) (distinct : record.Distinct)
    (shape : Shape) {out : Record} :
    l.reshape record shape = .ok out ↔
      (∀ t ∈ l.takings record, shape.has t.target = true) ∧
        out = Taking.putAll (l.takings record) ++ l.carried shape record := by
  rw [reshape_eq l distinct]
  cases first : (l.takings record).find? fun t => !shape.has t.target with
  | some t =>
    have member := List.mem_of_find?_eq_some first
    have room : shape.has t.target = false := by simpa using List.find?_some first
    simp only [reduceCtorEq, false_iff, not_and]
    intro declared
    simp [declared t member] at room
  | none =>
    have declared : ∀ t ∈ l.takings record, shape.has t.target = true := by
      simpa using List.find?_eq_none.1 first
    exact ⟨fun made => ⟨declared, (Except.ok.inj made).symm⟩, fun made => congrArg _ made.2.symm⟩

end Layout

end FieldMapping
