/-! Records kept in the order in which their keys were first written.
A record is a list of pairs; every operation below keeps its keys distinct, so
the first pair of a key is its only one. Nothing here looks at the values. -/

namespace FieldMapping

abbrev Assoc (α : Type) := List (String × α)

namespace Assoc
variable {α : Type}

def keys (r : Assoc α) : List String := r.map Prod.fst

@[simp] theorem keys_nil : keys ([] : Assoc α) = [] := rfl

@[simp] theorem keys_cons (p : String × α) (r : Assoc α) : keys (p :: r) = p.1 :: keys r := rfl

@[simp] theorem keys_append (r s : Assoc α) : keys (r ++ s) = keys r ++ keys s := List.map_append

@[simp] theorem keys_reverse (r : Assoc α) : keys r.reverse = (keys r).reverse := List.map_reverse

def Distinct (r : Assoc α) : Prop := r.keys.Nodup

instance (r : Assoc α) : Decidable r.Distinct := inferInstanceAs (Decidable r.keys.Nodup)

def get? : Assoc α → String → Option α
  | [], _ => none
  | (k, v) :: r, key => if k = key then some v else get? r key

@[simp] theorem get?_nil (key : String) : get? ([] : Assoc α) key = none := rfl

theorem get?_cons (k : String) (v : α) (r : Assoc α) (key : String) :
    get? ((k, v) :: r) key = if k = key then some v else get? r key := rfl

theorem get?_eq_none_iff {r : Assoc α} {key : String} : r.get? key = none ↔ key ∉ r.keys := by
  induction r with
  | nil => simp
  | cons p r ih =>
    obtain ⟨k, v⟩ := p
    by_cases h : k = key
    · simp [get?_cons, h]
    · simp [get?_cons, h, ih, Ne.symm h]

theorem mem_of_get? {r : Assoc α} {key : String} {v : α} (h : r.get? key = some v) :
    (key, v) ∈ r := by
  induction r with
  | nil => simp at h
  | cons p r ih =>
    obtain ⟨k, w⟩ := p
    by_cases hk : k = key
    · simp_all [get?_cons]
    · exact List.mem_cons_of_mem _ (ih (by simpa [get?_cons, hk] using h))

theorem get?_of_mem_of_once {r : Assoc α} {key : String} {v : α} (hv : (key, v) ∈ r)
    (once : r.keys.count key ≤ 1) : r.get? key = some v := by
  induction r with
  | nil => simp at hv
  | cons p r ih =>
    rw [keys_cons, List.count_cons] at once
    rcases List.mem_cons.1 hv with rfl | later
    · simp [get?_cons]
    · have known : 0 < (keys r).count key := List.count_pos_iff.2 (List.mem_map_of_mem later)
      have other : p.1 ≠ key := by
        intro same
        rw [if_pos (by simpa using same)] at once
        omega
      rw [get?_cons, if_neg other]
      exact ih later (by omega)

theorem get?_of_mem {r : Assoc α} (h : r.Distinct) {key : String} {v : α} (hv : (key, v) ∈ r) :
    r.get? key = some v :=
  get?_of_mem_of_once hv (List.nodup_iff_count.1 h key)

theorem eq_of_keys_of_get? {r s : Assoc α} (order : r.keys = s.keys) (distinct : s.Distinct)
    (values : ∀ p ∈ r, s.get? p.1 = some p.2) : r = s := by
  induction r generalizing s with
  | nil => exact (List.map_eq_nil_iff.1 order.symm).symm
  | cons p r ih =>
    cases s with
    | nil => cases order
    | cons q s =>
      obtain ⟨first, rest⟩ := List.cons.inj order
      obtain ⟨new, others⟩ := List.nodup_cons.1 distinct
      have here : q.2 = p.2 := by simpa [get?, first.symm] using values p List.mem_cons_self
      have later : ∀ t ∈ r, get? s t.1 = some t.2 := by
        intro t member
        have known : t.1 ∈ s.map Prod.fst := rest ▸ List.mem_map_of_mem member
        have apart : q.1 ≠ t.1 := fun same => new (same ▸ known)
        simpa [get?, apart] using values t (List.mem_cons_of_mem p member)
      rw [Prod.ext first here.symm, ih rest others later]

theorem get?_append (r s : Assoc α) (key : String) :
    get? (r ++ s) key = (r.get? key).or (s.get? key) := by
  induction r with
  | nil => rfl
  | cons p r ih =>
    by_cases h : p.1 = key
    · simp [get?, h]
    · simp [get?, h, ih]

theorem get?_reverse {r : Assoc α} {key : String} (once : r.keys.count key ≤ 1) :
    get? r.reverse key = r.get? key := by
  induction r with
  | nil => rfl
  | cons p r ih =>
    rw [keys_cons, List.count_cons] at once
    rw [List.reverse_cons, get?_append, ih (by omega)]
    by_cases h : p.1 = key
    · have alone : get? r key = none := by
        rw [get?_eq_none_iff, ← List.count_eq_zero]
        simpa [h] using once
      simp [get?, h, alone]
    · simp [get?, h]

theorem find?_key (r : Assoc α) (key : String) :
    r.find? (fun p => p.1 = key) = (r.get? key).map fun v => (key, v) := by
  induction r with
  | nil => rfl
  | cons p r ih =>
    by_cases h : p.1 = key
    · subst h
      simp [get?]
    · simp [get?, h, ih]

theorem getElem?_of_keys {r : Assoc α} {i : Nat} {key : String} (distinct : r.Distinct)
    (here : r.keys[i]? = some key) : r[i]? = (r.get? key).map fun v => (key, v) := by
  obtain ⟨p, found, rfl⟩ : ∃ p, r[i]? = some p ∧ p.1 = key := by simpa [keys] using here
  rw [found, get?_of_mem distinct (List.mem_of_getElem? found)]
  rfl

def has (r : Assoc α) (key : String) : Bool := (r.get? key).isSome

theorem has_iff {r : Assoc α} {key : String} : r.has key = true ↔ key ∈ r.keys := by
  rw [has, Option.isSome_iff_ne_none, ne_eq, get?_eq_none_iff, Classical.not_not]

/-- A key that is already there keeps its place and gets the new value. -/
def put : Assoc α → String → α → Assoc α
  | [], key, value => [(key, value)]
  | (k, v) :: r, key, value =>
    if k = key then (k, value) :: r else (k, v) :: put r key value

theorem get?_put (r : Assoc α) (key other : String) (value : α) :
    (r.put key value).get? other = if key = other then some value else r.get? other := by
  induction r with
  | nil => rfl
  | cons p r ih =>
    obtain ⟨k, v⟩ := p
    by_cases h : k = key
    · subst h
      by_cases ho : k = other <;> simp [put, get?_cons, ho]
    · by_cases ho : k = other
      · subst ho
        simp [put, get?_cons, h, Ne.symm h]
      · simp [put, get?_cons, h, ho, ih]

theorem keys_put (r : Assoc α) (key : String) (value : α) :
    (r.put key value).keys = if key ∈ r.keys then r.keys else r.keys ++ [key] := by
  induction r with
  | nil => rfl
  | cons p r ih =>
    obtain ⟨k, v⟩ := p
    by_cases h : k = key
    · simp [put, h]
    · by_cases hm : key ∈ keys r <;> simp [put, h, ih, hm, Ne.symm h]

theorem put_of_not_mem {r : Assoc α} {key : String} (new : key ∉ r.keys) (value : α) :
    r.put key value = r ++ [(key, value)] := by
  induction r with
  | nil => rfl
  | cons p r ih =>
    have parts : key ≠ p.1 ∧ key ∉ keys r := by simpa using new
    simp [put, Ne.symm parts.1, ih parts.2]

theorem modify_eq_put {r : Assoc α} {i : Nat} {key : String} (here : r.keys[i]? = some key)
    (distinct : r.Distinct) (value : α) :
    r.modify i (fun p => (p.1, value)) = r.put key value := by
  induction r generalizing i with
  | nil => simp at here
  | cons p r ih =>
    have apart : p.1 ∉ keys r ∧ Distinct r := List.nodup_cons.1 distinct
    cases i with
    | zero =>
      have same : p.1 = key := by simpa using here
      simp [put, same]
    | succ i =>
      have later : (keys r)[i]? = some key := by simpa using here
      have other : p.1 ≠ key := by
        rintro rfl
        exact apart.1 (List.mem_of_getElem? later)
      simp [put, other, ih later apart.2]

theorem distinct_put {r : Assoc α} (h : r.Distinct) (key : String) (value : α) :
    (r.put key value).Distinct := by
  unfold Distinct at h ⊢
  rw [keys_put]
  split
  · exact h
  · next hm =>
    rw [List.nodup_append]
    refine ⟨h, by simp, ?_⟩
    intro a ha b hb
    rw [List.mem_singleton.1 hb]
    intro hab
    exact hm (hab ▸ ha)

def ofPairs (pairs : List (String × α)) : Assoc α :=
  pairs.foldl (fun r p => r.put p.1 p.2) []

theorem distinct_foldl_put (pairs : List (String × α)) {r : Assoc α} (h : r.Distinct) :
    Distinct (pairs.foldl (fun r p => r.put p.1 p.2) r) := by
  induction pairs generalizing r with
  | nil => exact h
  | cons p pairs ih => exact ih (distinct_put h p.1 p.2)

theorem distinct_ofPairs (pairs : List (String × α)) : (ofPairs pairs).Distinct :=
  distinct_foldl_put pairs List.nodup_nil

def putAll (r : Assoc α) (pairs : List (String × α)) : Assoc α :=
  pairs.foldl (fun r p => r.put p.1 p.2) r

@[simp] theorem putAll_nil (r : Assoc α) : r.putAll [] = r := rfl

@[simp] theorem putAll_cons (r : Assoc α) (p : String × α) (pairs : List (String × α)) :
    r.putAll (p :: pairs) = (r.put p.1 p.2).putAll pairs := rfl

theorem putAll_append (r : Assoc α) (pairs others : List (String × α)) :
    r.putAll (pairs ++ others) = (r.putAll pairs).putAll others :=
  List.foldl_append

/-- Of several pairs with one key the last one counts. -/
theorem get?_putAll (r : Assoc α) (pairs : List (String × α)) (key : String) :
    (r.putAll pairs).get? key = (get? pairs.reverse key).or (r.get? key) := by
  induction pairs generalizing r with
  | nil => simp
  | cons p pairs ih =>
    rw [putAll_cons, ih, get?_put, List.reverse_cons, get?_append, Option.or_assoc]
    by_cases h : p.1 = key <;> simp [get?, h]

theorem get?_putAll_of_mem {pairs : List (String × α)} (distinct : Distinct pairs)
    {key : String} {value : α} (h : (key, value) ∈ pairs) (r : Assoc α) :
    (r.putAll pairs).get? key = some value := by
  have once : (keys pairs).count key ≤ 1 := List.nodup_iff_count.1 distinct key
  rw [get?_putAll, get?_reverse once, get?_of_mem distinct h]
  rfl

theorem get?_putAll_of_not_mem {pairs : List (String × α)} {key : String}
    (h : key ∉ keys pairs) (r : Assoc α) : (r.putAll pairs).get? key = r.get? key := by
  have backwards : get? pairs.reverse key = none := by
    rw [get?_eq_none_iff, keys_reverse, List.mem_reverse]
    exact h
  rw [get?_putAll, backwards, Option.none_or]

theorem keys_putAll (r : Assoc α) (pairs : List (String × α)) :
    (r.putAll pairs).keys =
      r.keys ++ ((keys pairs).filter fun key => key ∉ r.keys).eraseDups := by
  induction pairs generalizing r with
  | nil => simp
  | cons p pairs ih =>
    rw [putAll_cons, ih, keys_put]
    by_cases old : p.1 ∈ r.keys
    · simp [old]
    · simp [old, List.eraseDups_cons, List.filter_filter, Bool.beq_eq_decide_eq, Bool.and_comm]

theorem eraseDups_of_nodup {keys : List String} (h : keys.Nodup) : keys.eraseDups = keys := by
  induction keys with
  | nil => rfl
  | cons k keys ih =>
    obtain ⟨new, rest⟩ := List.nodup_cons.1 h
    have others : keys.filter (fun b => !b == k) = keys := by
      rw [List.filter_eq_self]
      intro b hb
      have differs : b ≠ k := by
        rintro rfl
        exact new hb
      simpa using differs
    rw [List.eraseDups_cons, others, ih rest]

theorem keys_putAll_of_distinct {pairs : List (String × α)} (distinct : Distinct pairs)
    (r : Assoc α) :
    (r.putAll pairs).keys = r.keys ++ (keys pairs).filter fun key => key ∉ r.keys := by
  rw [keys_putAll, eraseDups_of_nodup (List.Nodup.sublist List.filter_sublist distinct)]

theorem putAll_of_distinct {r : Assoc α} (distinct : r.Distinct) : putAll [] r = r := by
  have order : (putAll [] r).keys = r.keys := by
    rw [keys_putAll_of_distinct distinct]
    simp
  have apart : (putAll [] r).Distinct := by rwa [Distinct, order]
  exact (eq_of_keys_of_get? order.symm apart fun _ hp => get?_putAll_of_mem distinct hp []).symm

def remove : Assoc α → String → Assoc α
  | [], _ => []
  | (k, v) :: r, key => if k = key then r else (k, v) :: remove r key

theorem keys_remove (r : Assoc α) (key : String) : (r.remove key).keys = r.keys.erase key := by
  induction r with
  | nil => rfl
  | cons p r ih =>
    obtain ⟨k, v⟩ := p
    by_cases h : k = key
    · simp [remove, h]
    · simp [remove, h, ih]

theorem distinct_remove {r : Assoc α} (h : r.Distinct) (key : String) :
    (r.remove key).Distinct := by
  unfold Distinct at h ⊢
  rw [keys_remove]
  exact h.erase key

theorem get?_remove {r : Assoc α} (h : r.Distinct) (key other : String) :
    (r.remove key).get? other = if key = other then none else r.get? other := by
  induction r with
  | nil => simp [remove]
  | cons p r ih =>
    obtain ⟨k, v⟩ := p
    have hd : k ∉ keys r ∧ Distinct r := List.nodup_cons.1 h
    by_cases hk : k = key
    · subst hk
      by_cases ho : k = other
      · subst ho
        simpa [remove] using get?_eq_none_iff.2 hd.1
      · simp [remove, get?_cons, ho]
    · by_cases ho : k = other
      · subst ho
        simp [remove, get?_cons, hk, Ne.symm hk]
      · simp [remove, get?_cons, hk, ho, ih hd.2]

theorem get?_filter (r : Assoc α) (keep : String → Bool) (key : String) :
    get? (r.filter fun p => keep p.1) key = if keep key then r.get? key else none := by
  induction r with
  | nil => simp
  | cons p r ih =>
    obtain ⟨k, v⟩ := p
    by_cases same : k = key
    · subst same
      cases kept : keep k <;> simp [get?_cons, kept, ih]
    · cases kept : keep k <;> simp [get?_cons, kept, same, ih]

theorem remove_eq_filter {r : Assoc α} (h : r.Distinct) (key : String) :
    r.remove key = r.filter fun p => p.1 ≠ key := by
  induction r with
  | nil => rfl
  | cons p r ih =>
    obtain ⟨k, v⟩ := p
    have apart : k ∉ keys r ∧ Distinct r := List.nodup_cons.1 h
    by_cases same : k = key
    · subst same
      have others : r.filter (fun p => p.1 ≠ k) = r := by
        rw [List.filter_eq_self]
        intro p hp
        have differs : p.1 ≠ k := by
          rintro rfl
          exact apart.1 (List.mem_map_of_mem hp)
        simpa using differs
      simpa [remove] using others.symm
    · simpa [remove, same] using ih apart.2

theorem distinct_perm {r s : Assoc α} (h : r.Distinct) (perm : r.Perm s) : s.Distinct :=
  (perm.map Prod.fst).nodup_iff.1 h

theorem distinct_filter {r : Assoc α} (h : r.Distinct) (keep : String × α → Bool) :
    Distinct (r.filter keep) :=
  List.Nodup.sublist (List.filter_sublist.map Prod.fst) h

theorem get?_perm {r s : Assoc α} (h : r.Distinct) (perm : r.Perm s) (key : String) :
    r.get? key = s.get? key := by
  have keys : r.keys.Perm s.keys := perm.map Prod.fst
  cases found : s.get? key with
  | none => rwa [get?_eq_none_iff, keys.mem_iff, ← get?_eq_none_iff]
  | some v => exact get?_of_mem h (perm.mem_iff.2 (mem_of_get? found))

end Assoc

end FieldMapping
