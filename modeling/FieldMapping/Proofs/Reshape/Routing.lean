import Mathlib.Data.List.Nodup
import FieldMapping.Directory.Rules
import FieldMapping.Proofs.Layout.Tables
import FieldMapping.Reshape

/-! Where the values of a record go. Reshaping walks the fields and lets each take its
value out of the record, so a source name is taken by the first field that has it, while
looking a name up finds a property first and else the last field with that source name.
The two agree on every record exactly if no field has a source name that means a field
declared after it. -/

namespace FieldMapping

namespace Layout
variable {ρ : Type} {l : Layout ρ} {shape : Shape} {record : Record}

structure Plain (l : Layout ρ) : Prop where
  columns : ∀ p ∈ l.fields, p.2.target.isExtended = false
  apart : (l.fields.map fun p => p.2.target.name).Nodup

structure Routable (l : Layout ρ) (shape : Shape) (record : Record) : Prop where
  declared : ∀ p ∈ l.fields, shape.has p.2.target.name = true
  distinct : record.Distinct
  single : ∀ k ∈ record.keys, ∀ k' ∈ record.keys, ∀ p,
    l.lookup k = some p → l.lookup k' = some p → k = k'

/-- Every value stands under the target of the field that its key means. -/
def Routes [Rule ρ] (l : Layout ρ) (shape : Shape) (record : Record) : Prop :=
  ∃ out, (Source.mapped l record).onto shape = .ok (some out) ∧
    ∀ k ∈ record.keys, ∀ p, l.lookup k = some p → out.get? p.2.target.name = record.get? k

/-- No source name means a field after the one that has it. -/
def Orderly (l : Layout ρ) : Prop :=
  l.fields.Pairwise fun earlier later =>
    ∀ name ∈ earlier.2.source, l.lookup name ≠ some later

instance [DecidableEq ρ] (l : Layout ρ) : Decidable l.Orderly :=
  inferInstanceAs (Decidable (l.fields.Pairwise fun earlier later =>
    ∀ name ∈ earlier.2.source, l.lookup name ≠ some later))

/-- The same for the keys of one record, where a field that is there under its own
property looks for no other name. -/
def OrderlyOn (l : Layout ρ) (record : Record) : Prop :=
  l.fields.Pairwise fun earlier later => ∀ name ∈ earlier.2.source,
    name ∈ record.keys → earlier.1 ∉ record.keys → l.lookup name ≠ some later

theorem Orderly.on (orderly : l.Orderly) (record : Record) : l.OrderlyOn record :=
  List.Pairwise.imp (fun clear name source _ _ => clear name source) orderly

theorem take_eq_none_iff {rest : Record} {property : String} {field : Field ρ} :
    take rest property field = none ↔
      rest.get? property = none ∧ ∀ s, field.source = some s → rest.get? s = none := by
  unfold take
  cases rest.get? property with
  | some v => simp
  | none => cases field.source <;> simp

theorem take_eq_some {rest left : Record} {property : String} {field : Field ρ} {v : Value}
    (taken : take rest property field = some (v, left)) :
    ∃ k, rest.get? k = some v ∧ left = rest.remove k ∧
      (k = property ∨ rest.get? property = none ∧ field.source = some k) := by
  unfold take at taken
  cases here : rest.get? property with
  | some w =>
    simp only [here, Option.some.injEq, Prod.mk.injEq] at taken
    exact ⟨property, by rw [here, taken.1], taken.2.symm, .inl rfl⟩
  | none =>
    cases hs : field.source with
    | none => simp [here, hs] at taken
    | some s =>
      simp only [here, hs, Option.map_eq_some_iff, Prod.mk.injEq] at taken
      obtain ⟨w, found, rfl, rfl⟩ := taken
      exact ⟨s, found, rfl, .inr ⟨rfl, rfl⟩⟩

structure Passed (l : Layout ρ) (record : Record) (done : List (String × Field ρ))
    (rest output : Record) : Prop where
  distinct : rest.Distinct
  gone : ∀ k, ∀ p ∈ done, l.lookup k = some p → rest.get? k = none
  left : ∀ k, (∀ p ∈ done, l.lookup k ≠ some p) → rest.get? k = record.get? k
  placed : ∀ k ∈ record.keys, ∀ p ∈ done, l.lookup k = some p →
    output.get? p.2.target.name = record.get? k

namespace Passed
variable {done todo : List (String × Field ρ)} {p : String × Field ρ} {rest output : Record}

theorem start (distinct : record.Distinct) : l.Passed record [] record [] where
  distinct := distinct
  gone := by simp
  left _ _ := rfl
  placed := by simp

theorem skip (passed : l.Passed record done rest output)
    (unmeant : ∀ k, l.lookup k = some p → rest.get? k = none)
    (absent : ∀ k, l.lookup k = some p → k ∉ record.keys) :
    l.Passed record (done ++ [p]) rest output where
  distinct := passed.distinct
  gone k q hq means := by
    rcases List.mem_append.1 hq with old | new
    · exact passed.gone k q old means
    · rw [List.mem_singleton.1 new] at means
      exact unmeant k means
  left k others := passed.left k fun q old => others q (List.mem_append_left [p] old)
  placed k hk q hq means := by
    rcases List.mem_append.1 hq with old | new
    · exact passed.placed k hk q old means
    · rw [List.mem_singleton.1 new] at means
      exact absurd hk (absent k means)

theorem take (passed : l.Passed record done rest output) {key : String} {v : Value}
    (here : record.get? key = some v) (means : l.lookup key = some p)
    (only : ∀ k ∈ record.keys, l.lookup k = some p → k = key)
    (apart : ∀ q ∈ done, q.2.target.name ≠ p.2.target.name) (new : p ∉ done) :
    l.Passed record (done ++ [p]) (rest.remove key) (output.put p.2.target.name v) where
  distinct := Assoc.distinct_remove passed.distinct key
  gone k q hq meansQ := by
    rw [Assoc.get?_remove passed.distinct]
    split
    · rfl
    · next other =>
      rcases List.mem_append.1 hq with old | same
      · exact passed.gone k q old meansQ
      · rw [List.mem_singleton.1 same] at meansQ
        have untouched : ∀ x ∈ done, l.lookup k ≠ some x := by
          intro x hx meansX
          cases meansQ.symm.trans meansX
          exact new hx
        rw [passed.left k untouched, Assoc.get?_eq_none_iff]
        intro hk
        exact other (only k hk meansQ).symm
  left k others := by
    have other : key ≠ k := by
      rintro rfl
      exact others p (by simp) means
    rw [Assoc.get?_remove passed.distinct, if_neg other]
    exact passed.left k fun q old => others q (List.mem_append_left [p] old)
  placed k hk q hq meansQ := by
    rw [Assoc.get?_put]
    rcases List.mem_append.1 hq with old | same
    · rw [if_neg (apart q old).symm]
      exact passed.placed k hk q old meansQ
    · rw [List.mem_singleton.1 same] at meansQ ⊢
      rw [if_pos rfl, only k hk meansQ, here]

end Passed

theorem place_of_plain [Rule ρ] {field : Field ρ} (plain : field.target.isExtended = false)
    (output : Record) (v : Value) : place output field v = v := by
  unfold place
  cases ht : field.target with
  | column name => rfl
  | extended name transform => simp [ht, Target.isExtended] at plain

theorem lookup_of_source (tabled : l.Tabled) (orderly : l.OrderlyOn record)
    {done todo : List (String × Field ρ)} {p : String × Field ρ} {rest output : Record}
    (split : l.fields = done ++ p :: todo) (passed : l.Passed record done rest output)
    {key : String} {v : Value} (here : rest.get? key = some v)
    (source : p.2.source = some key) (absent : p.1 ∉ record.keys) : l.lookup key = some p := by
  have mem : p ∈ l.fields := by simp [split]
  obtain ⟨q, means⟩ := tabled.exists_lookup_source mem source
  have notBefore : q ∉ done := by
    intro old
    simp [passed.gone key q old means] at here
  have inRecord : key ∈ record.keys := by
    have others : ∀ x ∈ done, l.lookup key ≠ some x := by
      intro x hx meansX
      cases means.symm.trans meansX
      exact notBefore hx
    rw [passed.left key others] at here
    exact List.mem_map_of_mem (Assoc.mem_of_get? here)
  have order := orderly
  rw [OrderlyOn, split, List.pairwise_append, List.pairwise_cons] at order
  have notAfter : q ∉ todo := fun later =>
    order.2.1.1 q later key source inRecord absent means
  have place := tabled.mem_of_lookup means
  rw [split, List.mem_append, List.mem_cons] at place
  rcases place with old | rfl | later
  · exact absurd old notBefore
  · exact means
  · exact absurd later notAfter

/-- One field of the walk. -/
theorem passed_walk_cons [Rule ρ] (tabled : l.Tabled) (plain : l.Plain)
    (routable : l.Routable shape record) (orderly : l.OrderlyOn record)
    {done todo : List (String × Field ρ)} {p : String × Field ρ} {rest output : Record}
    (split : l.fields = done ++ p :: todo) (passed : l.Passed record done rest output) :
    ∃ rest' output', walk l.entity shape (p :: todo) rest output =
      walk l.entity shape todo rest' output' ∧ l.Passed record (done ++ [p]) rest' output' := by
  have mem : p ∈ l.fields := by simp [split]
  have names := plain.apart
  rw [split, List.map_append, List.map_cons, List.nodup_append] at names
  have apart : ∀ q ∈ done, q.2.target.name ≠ p.2.target.name := fun q hq =>
    names.2.2 _ (List.mem_map_of_mem hq) _ List.mem_cons_self
  have new : p ∉ done := fun old => apart p old rfl
  have untouched : ∀ k, l.lookup k = some p → rest.get? k = record.get? k := by
    intro k means
    refine passed.left k fun q hq meansQ => ?_
    cases means.symm.trans meansQ
    exact new hq
  have own := untouched p.1 (tabled.lookup_property mem)
  cases taken : take rest p.1 p.2 with
  | none =>
    have nothing := take_eq_none_iff.1 taken
    have unmeant : ∀ k, l.lookup k = some p → rest.get? k = none := by
      intro k means
      rcases tabled.named_of_lookup means with rfl | source
      · exact nothing.1
      · exact nothing.2 k source
    refine ⟨rest, output, by rw [walk, taken], passed.skip unmeant fun k means => ?_⟩
    rw [← Assoc.get?_eq_none_iff, ← untouched k means]
    exact unmeant k means
  | some pair =>
    obtain ⟨v, left⟩ := pair
    obtain ⟨key, here, rfl, named⟩ := take_eq_some taken
    have means : l.lookup key = some p := by
      rcases named with rfl | ⟨absent, source⟩
      · exact tabled.lookup_property mem
      · rw [own, Assoc.get?_eq_none_iff] at absent
        exact lookup_of_source tabled orderly split passed here source absent
    have inRecord : record.get? key = some v := by rw [← untouched key means, here]
    have key_mem : key ∈ record.keys := List.mem_map_of_mem (Assoc.mem_of_get? inRecord)
    have only : ∀ k ∈ record.keys, l.lookup k = some p → k = key := fun k hk meansK =>
      routable.single k hk key key_mem p meansK means
    refine ⟨rest.remove key, output.put p.2.target.name v, ?_,
      passed.take inRecord means only apart new⟩
    rw [walk, taken]
    simp only [routable.declared p mem, if_true, place_of_plain (plain.columns p mem)]

theorem passed_walk [Rule ρ] (tabled : l.Tabled) (plain : l.Plain)
    (routable : l.Routable shape record) (orderly : l.OrderlyOn record)
    (done todo : List (String × Field ρ)) {rest output : Record}
    (split : l.fields = done ++ todo) (passed : l.Passed record done rest output) :
    ∃ rest' output', walk l.entity shape todo rest output = .ok (rest', output') ∧
      l.Passed record l.fields rest' output' := by
  induction todo generalizing done rest output with
  | nil =>
    rw [List.append_nil] at split
    exact ⟨rest, output, rfl, split ▸ passed⟩
  | cons p todo ih =>
    obtain ⟨rest', output', step, next⟩ :=
      passed_walk_cons tabled plain routable orderly split passed
    rw [step]
    exact ih (done ++ [p]) (by simp [split]) next

theorem get?_carry {output : Record} {key : String} {v : Value}
    (here : output.get? key = some v) (rest : Record) :
    (carry shape output rest).get? key = some v := by
  induction rest generalizing output with
  | nil => exact here
  | cons p rest ih =>
    obtain ⟨k, w⟩ := p
    rw [carry]
    split
    · next room =>
      refine ih ?_
      have other : k ≠ key := by
        rintro rfl
        simp [Assoc.has, here] at room
      rw [Assoc.get?_put, if_neg other, here]
    · exact ih here

theorem routes_of_orderlyOn [Rule ρ] (tabled : l.Tabled) (plain : l.Plain)
    (routable : l.Routable shape record) (orderly : l.OrderlyOn record) :
    l.Routes shape record := by
  obtain ⟨rest, output, walked, passed⟩ :=
    passed_walk tabled plain routable orderly [] l.fields rfl (.start routable.distinct)
  refine ⟨carry shape output rest, ?_, ?_⟩
  · simp [Source.onto, reshape, walked, Except.map]
  · intro k hk p means
    obtain ⟨v, here⟩ := Option.isSome_iff_exists.1 (Assoc.has_iff.2 hk)
    have put := passed.placed k hk p (tabled.mem_of_lookup means) means
    rw [here] at put ⊢
    exact get?_carry put rest

theorem walk_nil [Rule ρ] (entity : String) (fields : List (String × Field ρ))
    (output : Record) : walk entity shape fields [] output = .ok ([], output) := by
  induction fields with
  | nil => rfl
  | cons p fields ih =>
    have nothing : Layout.take [] p.1 p.2 = none := take_eq_none_iff.2 ⟨rfl, fun _ _ => rfl⟩
    rw [walk, nothing]
    exact ih

theorem walk_singleton [Rule ρ] (shape : Shape) (entity name : String) (v : Value)
    {fields : List (String × Field ρ)} {p : String × Field ρ}
    (columns : ∀ q ∈ fields, q.2.target.isExtended = false)
    (declared : ∀ q ∈ fields, shape.has q.2.target.name = true)
    (first : fields.find? (fun q => q.1 = name ∨ q.2.source = some name) = some p) :
    walk entity shape fields [(name, v)] [] = .ok ([], [(p.2.target.name, v)]) := by
  induction fields with
  | nil => simp at first
  | cons q fields ih =>
    by_cases named : q.1 = name ∨ q.2.source = some name
    · have same : q = p := by simpa [named] using first
      subst same
      have taken : Layout.take [(name, v)] q.1 q.2 = some (v, []) := by
        by_cases own : q.1 = name
        · simp [Layout.take, Assoc.get?, Assoc.remove, own]
        · simp [Layout.take, Assoc.get?, Assoc.remove, Ne.symm own, named.resolve_left own]
      rw [walk, taken]
      simp only [declared q List.mem_cons_self, if_true,
        place_of_plain (columns q List.mem_cons_self)]
      exact walk_nil entity fields _
    · have nothing : Layout.take [(name, v)] q.1 q.2 = none := by
        rw [not_or] at named
        rw [take_eq_none_iff]
        refine ⟨by simp [Assoc.get?, Ne.symm named.1], fun s source => ?_⟩
        have other : name ≠ s := by
          rintro rfl
          exact named.2 source
        simp [Assoc.get?, other]
      rw [walk, nothing]
      refine ih (fun r hr => columns r (List.mem_cons_of_mem q hr))
        (fun r hr => declared r (List.mem_cons_of_mem q hr)) ?_
      simpa [named] using first

theorem orderly_of_routes [Rule ρ] (tabled : l.Tabled) (plain : l.Plain)
    (routes : ∀ shape record, l.Routable shape record → l.Routes shape record) : l.Orderly := by
  rw [Orderly, List.pairwise_iff_getElem]
  intro i j hi hj before name source means
  rw [Option.mem_def] at source
  let shape := Shape.ofKeys (l.fields.map fun p => p.2.target.name)
  have declared : ∀ p ∈ l.fields, shape.has p.2.target.name = true := by
    intro p hp
    have target : p.2.target.name ∈ l.fields.map fun p => p.2.target.name :=
      List.mem_map_of_mem hp
    simpa [shape, Shape.has, Shape.ofKeys] using target
  have routable : l.Routable shape [(name, .null)] :=
    ⟨declared, by simp [Assoc.Distinct, Assoc.keys], by simp [Assoc.keys]⟩
  obtain ⟨out, ok, values⟩ := routes shape _ routable
  obtain ⟨first, found⟩ : ∃ first,
      l.fields.find? (fun q => q.1 = name ∨ q.2.source = some name) = some first := by
    rw [← Option.isSome_iff_exists, List.find?_isSome]
    exact ⟨l.fields[i], List.getElem_mem hi, by simp [source]⟩
  have put : out = [(first.2.target.name, .null)] := by
    have walked := walk_singleton shape l.entity name .null plain.columns declared found
    simpa [Source.onto, reshape, walked, carry, Except.map] using ok.symm
  have value := values name (by simp [Assoc.keys]) _ means
  have same : first.2.target.name = l.fields[j].2.target.name := by
    simpa [put, Assoc.get?] using value
  have isLater : first = l.fields[j] :=
    List.inj_on_of_nodup_map plain.apart (List.mem_of_find?_eq_some found)
      (List.getElem_mem hj) same
  -- the earlier field answers to the name as well, so the later one is not the first
  rw [isLater, List.find?_eq_some_iff_getElem] at found
  obtain ⟨-, k, hk, here, others⟩ := found
  have place : k = j := by
    have nodup : l.fields.Nodup := List.Nodup.of_map _ tabled.distinct
    exact (nodup.getElem_inj_iff).1 here
  have refused := others i (place ▸ before)
  simp [source] at refused

/-- Values go where looking their keys up says exactly if no source name means a later field. -/
theorem routes_iff_orderly [Rule ρ] (made : l.Made) (plain : l.Plain) :
    (∀ shape record, l.Routable shape record → l.Routes shape record) ↔ l.Orderly :=
  ⟨orderly_of_routes made.tabled plain,
    fun orderly _ record routable =>
      routes_of_orderlyOn made.tabled plain routable (orderly.on record)⟩

open Directory in
theorem routes_iff_orderly_for_surnames :
    let l : Layout StockRule := .ofFields "Person"
      [("id", .column "id"), ("lastName", { Field.column "last_name" with source := some "surname" }),
       ("team", .column "team_id")]
    l.Made ∧ l.Plain ∧ l.Orderly ∧
      ∀ shape record, l.Routable shape record → l.Routes shape record := by
  intro l
  have made : l.Made := made_ofFields _ _
  have plain : l.Plain := ⟨by decide, by decide⟩
  have orderly : l.Orderly := by decide
  exact ⟨made, plain, orderly, (routes_iff_orderly made plain).2 orderly⟩

open Directory in
/-- A nickname may come as a name, which means the field after it: the name is put out
as a nickname, and nothing as a name. -/
theorem unrouted_name :
    let l : Layout StockRule := .ofFields "Person"
      [("nickname", { Field.column "nick" with source := some "name" }),
       ("name", .column "full_name")]
    let shape := Shape.ofKeys ["nick", "full_name"]
    let record : Record := [("name", .string "Ann")]
    l.Made ∧ l.Plain ∧ l.Routable shape record ∧
      l.lookup "name" = some ("name", .column "full_name") ∧
      (Source.mapped l record).onto shape = .ok (some [("nick", .string "Ann")]) ∧
      ¬ l.Routes shape record := by
  intro l shape record
  have put : (Source.mapped l record).onto shape = .ok (some [("nick", .string "Ann")]) := rfl
  have means : l.lookup "name" = some ("name", .column "full_name") := by decide
  refine ⟨made_ofFields _ _, ⟨by decide, by decide⟩,
    ⟨by decide, by decide, by simp [record, Assoc.keys]⟩, means, put, ?_⟩
  rintro ⟨out, ok, values⟩
  have same : some [("nick", Value.string "Ann")] = some out := Except.ok.inj (put.symm.trans ok)
  have value := values "name" (by simp [record, Assoc.keys]) _ means
  simp [← Option.some.inj same, record, Assoc.get?, Field.column, Field.of, Target.name] at value

end Layout

end FieldMapping
