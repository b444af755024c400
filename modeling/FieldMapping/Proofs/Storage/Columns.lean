import FieldMapping.Proofs.Storage.Keys
import Mathlib.Data.List.Induction

/-! Storage names in the order in which they first come up. A record whose keys are renamed
has each of its new keys once, in the place of the first old key that it stands for and with
the value of the last. Columns to select are those of the requested names and then of the
required fields, each once. -/

namespace FieldMapping

structure FirstOccurrences (names result : List String) : Prop where
  mem : ∀ s, s ∈ result ↔ s ∈ names
  order : result.Pairwise fun s t => names.idxOf s < names.idxOf t

namespace FirstOccurrences
variable {names result other : List String}

theorem nodup (first : FirstOccurrences names result) : result.Nodup := by
  refine first.order.imp fun before same => ?_
  rw [same] at before
  exact Nat.lt_irrefl _ before

theorem unique (first : FirstOccurrences names result) (again : FirstOccurrences names other) :
    result = other := by
  have perm : result.Perm other := by
    rw [List.perm_ext_iff_of_nodup first.nodup again.nodup]
    exact fun s => (first.mem s).trans (again.mem s).symm
  exact List.Perm.eq_of_pairwise (fun s t _ _ before after => absurd before (Nat.lt_asymm after))
    first.order again.order perm

theorem order_append (first : FirstOccurrences names result) (more : List String) :
    result.Pairwise fun s t => (names ++ more).idxOf s < (names ++ more).idxOf t := by
  refine first.order.imp_of_mem fun hs ht before => ?_
  rwa [List.idxOf_append_of_mem ((first.mem _).1 hs), List.idxOf_append_of_mem ((first.mem _).1 ht)]

theorem snoc_old (first : FirstOccurrences names result) {name : String} (old : name ∈ names) :
    FirstOccurrences (names ++ [name]) result where
  mem s := by
    rw [first.mem, List.mem_append, List.mem_singleton]
    exact ⟨.inl, fun there => there.elim id fun same => same ▸ old⟩
  order := first.order_append [name]

theorem snoc_new (first : FirstOccurrences names result) {name : String} (new : name ∉ names) :
    FirstOccurrences (names ++ [name]) (result ++ [name]) where
  mem s := by simp [first.mem]
  order := by
    rw [List.pairwise_append]
    refine ⟨first.order_append [name], List.pairwise_singleton _ _, fun s hs t ht => ?_⟩
    have inside : s ∈ names := (first.mem s).1 hs
    rw [List.mem_singleton.1 ht, List.idxOf_append_of_mem inside, List.idxOf_append_of_notMem new]
    have place := List.idxOf_lt_length_iff.2 inside
    omega

theorem eraseDups (names : List String) : FirstOccurrences names names.eraseDups := by
  -- from the back, as a name that is added last never moves those before it
  induction names using List.reverseRecOn with
  | nil => exact ⟨fun s => .rfl, .nil⟩
  | append_singleton names name ih =>
    rw [List.eraseDups_append]
    by_cases old : name ∈ names
    · have nothing : [name].removeAll names = [] := by simp [List.removeAll, old]
      rw [nothing]
      simpa using ih.snoc_old old
    · have all : [name].removeAll names = [name] := by simp [List.removeAll, old]
      rw [all]
      exact ih.snoc_new old

end FirstOccurrences

theorem exists_split_of_idxOf_lt {names : List String} {s t : String}
    (before : names.idxOf s < names.idxOf t) :
    ∃ front back, names = front ++ s :: back ∧ t ∉ front ++ [s] := by
  have member : s ∈ names := by
    rw [← List.idxOf_lt_length_iff]
    exact Nat.lt_of_lt_of_le before List.idxOf_le_length
  obtain ⟨front, back, rfl, new⟩ := List.eq_append_cons_of_mem member
  refine ⟨front, back, rfl, fun early => ?_⟩
  rw [List.idxOf_append_of_notMem new, List.idxOf_cons_self] at before
  rcases List.mem_append.1 early with inside | same
  · rw [List.idxOf_append_of_mem inside] at before
    have place := List.idxOf_lt_length_iff.2 inside
    omega
  · rw [List.mem_singleton.1 same, List.idxOf_append_of_notMem new, List.idxOf_cons_self] at before
    omega

theorem exists_first_of_filterMap {α : Type} {f : α → Option String} {xs : List α}
    {front back : List String} {s : String} (made : xs.filterMap f = front ++ s :: back) :
    ∃ before x after, xs = before ++ x :: after ∧ f x = some s ∧
      (before ++ [x]).filterMap f = front ++ [s] := by
  obtain ⟨former, rest, rfl, rfl, rest_made⟩ := List.filterMap_eq_append_iff.1 made
  obtain ⟨none, x, after, rfl, silent, makes, -⟩ := List.filterMap_eq_cons_iff.1 rest_made
  refine ⟨former ++ none, x, after, by simp, makes, ?_⟩
  simp [List.filterMap_eq_nil_iff.2 silent, makes]

namespace Layout
variable {ρ : Type} {l : Layout ρ} {input output : Record} {e : ExtendedTarget}

/-- The key of the first pair whose field has no single column. -/
def FirstExtended (l : Layout ρ) (input : Record) (e : ExtendedTarget) : Prop :=
  ∃ (before : Record) (key : String) (value : Value) (after : Record) (property : String)
    (field : Field ρ), input = before ++ (key, value) :: after ∧ (∀ p ∈ before, l.Renames p.1) ∧
      l.lookup key = some (property, field) ∧ field.target.isExtended = true ∧
      e = ⟨l.entity, property, field.describe⟩

/-- The value of the last pair whose key has that storage name. -/
def LastUnder (l : Layout ρ) (input : Record) (name : String) (value : Value) : Prop :=
  ∃ (before : Record) (key : String) (after : Record), input = before ++ (key, value) :: after ∧
    l.storageName key = name ∧ ∀ p ∈ after, l.storageName p.1 ≠ name

theorem storageKey_eq_error_iff {key : String} :
    l.storageKey key = .error e ↔ ∃ property field, l.lookup key = some (property, field) ∧
      field.target.isExtended = true ∧ e = ⟨l.entity, property, field.describe⟩ := by
  cases found : l.lookup key with
  | none => simp [storageKey, found]
  | some p =>
    simp only [storageKey, found, columnOf]
    constructor
    · intro refused
      split at refused <;> cases refused
      next none => exact ⟨p.1, p.2, rfl, (p.2.target.column?_eq_none_iff).1 none, rfl⟩
    · rintro ⟨property, field, ⟨⟩, extended, rfl⟩
      rw [(field.target.column?_eq_none_iff).2 extended]

theorem renameKeys_eq_error_iff :
    l.renameKeys input = .error e ↔ l.FirstExtended input e := by
  let rename (p : String × Value) := (l.storageKey p.1).map fun k => (k, p.2)
  have passes (before : Record) :
      (∃ pairs : List (String × Value), before.map rename = pairs.map .ok) ↔
        ∀ p ∈ before, l.Renames p.1 := by
    simp only [← traverse_eq_ok_iff, traverse_passes_iff, rename, map_passes_iff,
      storageKey_passes_iff]
  rw [renameKeys, map_eq_error_iff, traverse_eq_error_iff]
  simp only [map_eq_error_iff, storageKey_eq_error_iff]
  constructor
  · rintro ⟨before, p, after, pairs, split, good, property, field, found, extended, rfl⟩
    have passed := (passes before).1 ⟨pairs, good⟩
    exact ⟨before, p.1, p.2, after, property, field, split, passed, found, extended, rfl⟩
  · rintro ⟨before, key, value, after, property, field, split, passed, found, extended, rfl⟩
    obtain ⟨pairs, good⟩ := (passes before).2 passed
    exact ⟨before, (key, value), after, pairs, split, good, property, field, found, extended, rfl⟩

theorem lastUnder_cons_iff {p : String × Value} {name : String} {value : Value} :
    l.LastUnder (p :: input) name value ↔ l.LastUnder input name value ∨
      (∀ q ∈ input, l.storageName q.1 ≠ name) ∧ l.storageName p.1 = name ∧ p.2 = value := by
  constructor
  · rintro ⟨before, key, after, split, same, last⟩
    cases before with
    | nil =>
      cases split
      exact .inr ⟨last, same, rfl⟩
    | cons q before =>
      cases split
      exact .inl ⟨before, key, after, rfl, same, last⟩
  · rintro (⟨before, key, after, rfl, same, last⟩ | ⟨last, same, rfl⟩)
    · exact ⟨p :: before, key, after, rfl, same, last⟩
    · exact ⟨[], p.1, input, rfl, same, last⟩

theorem lastUnder_iff {name : String} {value : Value} :
    Assoc.get? (l.renamedPairs input).reverse name = some value ↔
      l.LastUnder input name value := by
  induction input with
  | nil => simp [renamedPairs, LastUnder]
  | cons p input ih =>
    have none : Assoc.get? (l.renamedPairs input).reverse name = none ↔
        ∀ q ∈ input, l.storageName q.1 ≠ name := by
      rw [Assoc.get?_eq_none_iff, Assoc.keys_reverse, List.mem_reverse, keys_renamedPairs]
      simp [Assoc.keys]
    have split : (l.renamedPairs (p :: input)).reverse =
        (l.renamedPairs input).reverse ++ [(l.storageName p.1, p.2)] := List.reverse_cons
    rw [lastUnder_cons_iff, split, Assoc.get?_append, Option.or_eq_some_iff, ih, none]
    simp [Assoc.get?]

theorem firstOccurrences_of_renameKeys (renamed : l.renameKeys input = .ok output) :
    FirstOccurrences (input.keys.map l.storageName) output.keys := by
  rw [keys_renameKeys renamed]
  exact .eraseDups _

theorem lastUnder_of_renameKeys (renamed : l.renameKeys input = .ok output) :
    ∀ p ∈ output, l.LastUnder input p.1 p.2 := by
  have distinct : output.Distinct := by
    rw [renameKeys_eq renamed]
    exact Assoc.distinct_ofPairs _
  intro p member
  rw [← lastUnder_iff, ← get?_renameKeys renamed]
  exact Assoc.get?_of_mem distinct member

/-- Renaming fails for the first key whose field has no single column. Without one it gives
each storage name once, where it first comes up and with the last value that goes there. -/
theorem renameKeys_exact (l : Layout ρ) (input : Record) :
    ((∃ e, l.renameKeys input = .error e) ↔ ∃ p ∈ input, ∃ property field,
      l.lookup p.1 = some (property, field) ∧ field.target.isExtended = true) ∧
    (∀ e, l.renameKeys input = .error e ↔ l.FirstExtended input e) ∧
    ∀ output, l.renameKeys input = .ok output ↔
      (∀ p ∈ input, ∀ property field, l.lookup p.1 = some (property, field) →
        field.target.isExtended = false) ∧
      FirstOccurrences (input.keys.map l.storageName) output.keys ∧
      ∀ p ∈ output, l.LastUnder input p.1 p.2 := by
  refine ⟨?_, fun e => renameKeys_eq_error_iff, fun output => ⟨fun renamed => ?_, ?_⟩⟩
  · rw [fails_iff, renameKeys_passes_iff]
    simp [Renames]
  · exact ⟨renameKeys_passes_iff.1 ⟨output, renamed⟩, firstOccurrences_of_renameKeys renamed,
      lastUnder_of_renameKeys renamed⟩
  · rintro ⟨passes, keys, values⟩
    obtain ⟨made, renamed⟩ := renameKeys_passes_iff.2 passes
    have order : output.keys = made.keys := keys.unique (firstOccurrences_of_renameKeys renamed)
    have distinct : made.Distinct := (firstOccurrences_of_renameKeys renamed).nodup
    have found : ∀ p ∈ output, made.get? p.1 = some p.2 := by
      intro p member
      rw [get?_renameKeys renamed, lastUnder_iff]
      exact values p member
    rw [renamed, Assoc.eq_of_keys_of_get? order distinct found]

open Directory in
theorem renameKeys_exact_for_surnames :
    let l : Layout StockRule := .ofFields "Person" Person.fields
    let input : Record := [("surname", .string "Lee"), ("badge", .null),
      ("lastName", .string "Ray"), ("nick", .null)]
    let output : Record := [("last_name", .string "Ray"), ("badge", .null), ("nick", .null)]
    let refused : Record := [("team", .null), ("fullName", .null), ("surname", .string "Lee")]
    let e : ExtendedTarget :=
      ⟨"Person", "fullName", "full_name = CONCAT(first_name, ' ', last_name)"⟩
    l.renameKeys input = .ok output ∧ l.LastUnder input "last_name" (.string "Ray") ∧
      FirstOccurrences (input.keys.map l.storageName) output.keys ∧
      l.renameKeys refused = .error e ∧ l.FirstExtended refused e := by
  intro l input output refused e
  obtain ⟨-, -, passes⟩ := renameKeys_exact l input
  obtain ⟨-, fails, -⟩ := renameKeys_exact l refused
  have renamed : l.renameKeys input = .ok output := rfl
  have failed : l.renameKeys refused = .error e := rfl
  obtain ⟨-, order, values⟩ := (passes output).1 renamed
  exact ⟨renamed, values _ List.mem_cons_self, order, failed, (fails e).1 failed⟩

end Layout

def Field.InColumn {ρ : Type} (field : Field ρ) (column : String) : Prop :=
  field.origin.isDerived = false ∧ field.origin.isVirtual = false ∧ field.target.name = column

namespace Layout
variable {ρ : Type} {l : Layout ρ} {requested : List String} {column : String}

inductive AsksFor (l : Layout ρ) (name : String) : String → Prop
  | field {column property : String} {field : Field ρ}
      (found : l.lookup name = some (property, field)) (kept : field.InColumn column) :
      AsksFor l name column
  | self (unknown : l.lookup name = none) : AsksFor l name name

def wanted (l : Layout ρ) (requested : List String) : List String :=
  requested.filterMap l.selectedFor? ++ l.required.filterMap fun p => selected? p.2

inductive Sooner (l : Layout ρ) (requested : List String) (s t : String) : Prop
  | requested {before after : List String} {name : String}
      (split : requested = before ++ name :: after) (asks : l.AsksFor name s)
      (unasked : ∀ other ∈ before ++ [name], ¬ l.AsksFor other t) : Sooner l requested s t
  | required {before after : List (String × Field ρ)} {p : String × Field ρ}
      (split : l.required = before ++ p :: after) (kept : p.2.InColumn s)
      (unasked : ∀ name ∈ requested, ¬ l.AsksFor name t)
      (elsewhere : ∀ q ∈ before ++ [p], ¬ q.2.InColumn t) : Sooner l requested s t

/-- The name adds nothing to a request: it is in it, or means a field that a name in it means
or that is required anyway. -/
def Covered (l : Layout ρ) (requested : List String) (name : String) : Prop :=
  name ∈ requested ∨ ∃ p, l.lookup name = some p ∧
    (p ∈ l.required ∨ ∃ other ∈ requested, l.lookup other = some p)

theorem selected?_eq_some_iff {field : Field ρ} :
    selected? field = some column ↔ field.InColumn column := by
  unfold selected? Field.InColumn
  cases field.origin.isDerived <;> cases field.origin.isVirtual <;> simp

theorem asksFor_iff_of_known {name : String} {p : String × Field ρ}
    (known : l.lookup name = some p) : l.AsksFor name column ↔ p.2.InColumn column := by
  constructor
  · rintro (⟨found, kept⟩ | unknown)
    · cases known.symm.trans found
      exact kept
    · cases known.symm.trans unknown
  · exact .field known

theorem asksFor_iff_of_unknown {name : String} (unknown : l.lookup name = none) :
    l.AsksFor name column ↔ name = column := by
  constructor
  · rintro (⟨found, -⟩ | -)
    · cases unknown.symm.trans found
    · rfl
  · rintro rfl
    exact .self unknown

theorem selectedFor?_eq_some_iff {name : String} :
    l.selectedFor? name = some column ↔ l.AsksFor name column := by
  unfold selectedFor?
  cases found : l.lookup name with
  | none => rw [asksFor_iff_of_unknown found, Option.some.injEq]
  | some p => rw [asksFor_iff_of_known found, selected?_eq_some_iff]

theorem mem_wanted_iff : column ∈ l.wanted requested ↔
    (∃ name ∈ requested, l.AsksFor name column) ∨ ∃ p ∈ l.required, p.2.InColumn column := by
  simp only [wanted, List.mem_append, List.mem_filterMap, selectedFor?_eq_some_iff,
    selected?_eq_some_iff]

theorem sooner_of_requested {s t : String} {front back : List String}
    (made : requested.filterMap l.selectedFor? = front ++ s :: back) (absent : t ∉ front ++ [s]) :
    l.Sooner requested s t := by
  obtain ⟨before, name, after, split, asks, passed⟩ := exists_first_of_filterMap made
  refine .requested split (selectedFor?_eq_some_iff.1 asks) fun other member asked => absent ?_
  rw [← passed]
  exact List.mem_filterMap.2 ⟨other, member, selectedFor?_eq_some_iff.2 asked⟩

theorem sooner_of_required {s t : String} {front back : List String}
    (made : (l.required.filterMap fun p => selected? p.2) = front ++ s :: back)
    (unasked : t ∉ requested.filterMap l.selectedFor?) (absent : t ∉ front ++ [s]) :
    l.Sooner requested s t := by
  obtain ⟨before, p, after, split, kept, passed⟩ := exists_first_of_filterMap made
  refine .required split (selected?_eq_some_iff.1 kept) (fun name member asked => unasked ?_)
    fun q member other => absent ?_
  · exact List.mem_filterMap.2 ⟨name, member, selectedFor?_eq_some_iff.2 asked⟩
  · rw [← passed]
    exact List.mem_filterMap.2 ⟨q, member, selected?_eq_some_iff.2 other⟩

theorem sooner_of_wanted {s t : String}
    (before : (l.wanted requested).idxOf s < (l.wanted requested).idxOf t) :
    l.Sooner requested s t := by
  obtain ⟨front, back, split, absent⟩ := exists_split_of_idxOf_lt before
  -- the place of `s` may lie past the requested columns, at their very end or among them
  rcases List.append_eq_append_iff.1 split with ⟨rest, rfl, made⟩ | ⟨rest, asked, made⟩
  · rw [List.append_assoc, List.mem_append, not_or] at absent
    exact sooner_of_required made absent.1 absent.2
  · rcases List.cons_eq_append_iff.1 made with ⟨rfl, alone⟩ | ⟨later, rfl, -⟩
    · rw [List.append_nil] at asked
      rw [← asked, List.mem_append, not_or] at absent
      have first : (l.required.filterMap fun p => selected? p.2) = [] ++ s :: back := alone
      exact sooner_of_required first absent.1 absent.2
    · exact sooner_of_requested asked absent

theorem firstOccurrences_selectColumns (l : Layout ρ) (requested : List String) :
    FirstOccurrences (l.wanted requested) (l.selectColumns requested) :=
  .eraseDups _

theorem mem_selectColumns_iff : column ∈ l.selectColumns requested ↔
    (∃ name ∈ requested, l.AsksFor name column) ∨ ∃ p ∈ l.required, p.2.InColumn column :=
  ((firstOccurrences_selectColumns l requested).mem column).trans mem_wanted_iff

theorem selectColumns_mono {more : List String} (kept : requested ⊆ more) :
    l.selectColumns requested ⊆ l.selectColumns more := by
  intro column
  rw [mem_selectColumns_iff, mem_selectColumns_iff]
  rintro (⟨name, member, asks⟩ | required)
  · exact .inl ⟨name, kept member, asks⟩
  · exact .inr required

theorem mem_of_covered {name : String} (covered : l.Covered requested name)
    (asks : l.AsksFor name column) : column ∈ l.selectColumns requested := by
  rw [mem_selectColumns_iff]
  obtain member | ⟨p, found, again⟩ := covered
  · exact .inl ⟨name, member, asks⟩
  · rw [asksFor_iff_of_known found] at asks
    rcases again with required | ⟨other, member, same⟩
    · exact .inr ⟨p, required, asks⟩
    · exact .inl ⟨other, member, (asksFor_iff_of_known same).2 asks⟩

theorem selectColumns_perm {more : List String} (kept : requested ⊆ more)
    (covered : ∀ name ∈ more, l.Covered requested name) :
    (l.selectColumns more).Perm (l.selectColumns requested) := by
  have nodup (names : List String) : (l.selectColumns names).Nodup :=
    (firstOccurrences_selectColumns l names).nodup
  rw [List.perm_ext_iff_of_nodup (nodup more) (nodup requested)]
  intro column
  refine ⟨fun there => ?_, fun there => selectColumns_mono kept there⟩
  rcases mem_selectColumns_iff.1 there with ⟨name, member, asks⟩ | required
  · exact mem_of_covered (covered name member) asks
  · exact mem_selectColumns_iff.2 (.inr required)

theorem sooner_selectColumns (l : Layout ρ) (requested : List String) :
    (l.selectColumns requested).Pairwise (l.Sooner requested) :=
  (firstOccurrences_selectColumns l requested).order.imp sooner_of_wanted

/-- Each column that a requested name or a required field asks for is selected once, in the
order in which they are asked for. More names take no column away, and those that add nothing
to the request add no column. -/
theorem selectColumns_exact (l : Layout ρ) (requested : List String) :
    (l.selectColumns requested).Nodup ∧
    (∀ column, column ∈ l.selectColumns requested ↔
      (∃ name ∈ requested, l.AsksFor name column) ∨ ∃ p ∈ l.required, p.2.InColumn column) ∧
    (l.selectColumns requested).Pairwise (l.Sooner requested) ∧
    (∀ more, requested ⊆ more → l.selectColumns requested ⊆ l.selectColumns more) ∧
    ∀ more, requested ⊆ more → (∀ name ∈ more, l.Covered requested name) →
      (l.selectColumns more).Perm (l.selectColumns requested) :=
  ⟨(firstOccurrences_selectColumns l requested).nodup, fun _ => mem_selectColumns_iff,
    sooner_selectColumns l requested, fun _ => selectColumns_mono, fun _ => selectColumns_perm⟩

open Directory in
theorem selectColumns_exact_for_surnames :
    let l : Layout StockRule := .ofFields "Person" Person.fields
    let requested := ["raw_col", "lastName", "fullName"]
    let more := ["surname", "raw_col", "id", "lastName", "fullName", "raw_col"]
    l.selectColumns requested = ["raw_col", "last_name", "id"] ∧ requested ⊆ more ∧
      (∀ name ∈ more, l.Covered requested name) ∧
      l.selectColumns more = ["last_name", "raw_col", "id"] ∧
      (l.selectColumns more).Perm (l.selectColumns requested) ∧
      l.AsksFor "lastName" "last_name" ∧ "last_name" ∈ l.selectColumns requested := by
  intro l requested more
  obtain ⟨-, mem, -, -, covers⟩ := selectColumns_exact l requested
  have kept : requested ⊆ more := by decide
  have surname : l.Covered requested "surname" := .inr ⟨_, rfl, .inr ⟨"lastName", by decide, rfl⟩⟩
  have number : l.Covered requested "id" := .inr ⟨_, rfl, .inl (by decide)⟩
  have covered : ∀ name ∈ more, l.Covered requested name := by
    simp only [more, List.forall_mem_cons]
    exact ⟨surname, .inl (by decide), number, .inl (by decide), .inl (by decide), .inl (by decide),
      nofun⟩
  have asks : l.AsksFor "lastName" "last_name" := .field rfl ⟨rfl, rfl, rfl⟩
  exact ⟨by decide, kept, covered, by decide, covers more kept covered, asks,
    (mem _).2 (.inl ⟨_, by decide, asks⟩)⟩

end Layout

end FieldMapping
