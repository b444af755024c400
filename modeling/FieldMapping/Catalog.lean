import FieldMapping.Layout

/-! A catalog of entity types with inheritance. Fields may be registered for a
type besides those it declares, until the type is resolved; its layout is then
made once, layer by layer from the oldest ancestor down, and kept. -/

namespace FieldMapping

/-- A family of `n` entity types; each may extend another one. -/
structure Hierarchy (ρ : Type) (n : Nat) where
  name : Fin n → String
  declared : Fin n → List (String × Field ρ)
  parent : Fin n → Option (Fin n)

structure Catalog (ρ : Type) (n : Nat) where
  registered : Fin n → List (String × Field ρ)
  resolved : Fin n → Option (Layout ρ)

inductive RegisterError where
  | conflict (entity property existing attempted : String)
  | alreadyResolved (entity property : String)
deriving DecidableEq

def RegisterError.message : RegisterError → String
  | conflict entity property existing attempted =>
    s!"RegistryError - ConflictingRegistration: '{property}' on '{entity}' is already mapped to '{existing}', refusing '{attempted}'"
  | alreadyResolved entity property =>
    s!"RegistryError - AlreadyResolved: '{entity}' has been resolved, '{property}' can no longer be added"

def updateAt {ι α : Type} [DecidableEq ι] (f : ι → α) (i : ι) (a : α) : ι → α :=
  fun j => if j = i then a else f j

@[simp] theorem updateAt_same {ι α : Type} [DecidableEq ι] (f : ι → α) (i : ι) (a : α) :
    updateAt f i a i = a := by simp [updateAt]

theorem updateAt_of_ne {ι α : Type} [DecidableEq ι] (f : ι → α) {i j : ι} (a : α) (h : j ≠ i) :
    updateAt f i a j = f j := by simp [updateAt, h]

namespace Catalog
variable {ρ : Type} {n : Nat}

def empty : Catalog ρ n := ⟨fun _ => [], fun _ => none⟩

def isResolved (c : Catalog ρ n) (e : Fin n) : Bool := (c.resolved e).isSome

/-- A field that a type already has may be registered again if it is the same. -/
def agree [DecidableEq ρ] (entity property : String) (existing attempted : Field ρ) :
    Except RegisterError Unit :=
  if existing = attempted then .ok ()
  else .error (.conflict entity property existing.describe attempted.describe)

/-- Declared fields are looked at first and of two with one name the first, then
those registered before; only a new property has to come before the resolution. -/
def register [DecidableEq ρ] (h : Hierarchy ρ n) (c : Catalog ρ n) (e : Fin n)
    (property : String) (field : Field ρ) : Except RegisterError (Catalog ρ n) :=
  match Assoc.get? (h.declared e) property with
  | some existing => (agree (h.name e) property existing field).map fun _ => c
  | none =>
    match Assoc.get? (c.registered e) property with
    | some existing => (agree (h.name e) property existing field).map fun _ => c
    | none =>
      if c.isResolved e then .error (.alreadyResolved (h.name e) property)
      else
        .ok { c with
          registered := updateAt c.registered e (c.registered e ++ [(property, field)]) }

def ownLayer (h : Hierarchy ρ n) (c : Catalog ρ n) (e : Fin n) (parent : Option (Layout ρ)) :
    Layout ρ :=
  Layout.layer parent (h.name e) (h.declared e ++ c.registered e)

def keep (c : Catalog ρ n) (e : Fin n) (l : Layout ρ) : Catalog ρ n :=
  { c with resolved := updateAt c.resolved e (some l) }

def unvisited (visiting : List (Fin n)) : Nat :=
  (List.finRange n).countP fun e => !visiting.contains e

theorem countP_lt_of_imp {α : Type} {p q : α → Bool} {l : List α} {a : α} (ha : a ∈ l)
    (imp : ∀ x, p x = true → q x = true) (hp : p a = false) (hq : q a = true) :
    l.countP p < l.countP q := by
  induction l with
  | nil => simp at ha
  | cons b l ih =>
    have tail : l.countP p ≤ l.countP q := List.countP_mono_left fun x _ => imp x
    by_cases hb : b = a
    · subst hb
      simp only [List.countP_cons, hp, hq]
      simp only [Bool.false_eq_true, if_false, if_true]
      omega
    · have hl : a ∈ l := by
        rcases List.mem_cons.1 ha with h | h
        · exact absurd h.symm hb
        · exact h
      have less := ih hl
      cases hpb : p b with
      | true => simp [hpb, imp b hpb, less]
      | false => cases hqb : q b <;> simp [hpb, hqb] <;> omega

theorem unvisited_cons_lt {visiting : List (Fin n)} {e : Fin n} (h : e ∉ visiting) :
    unvisited (e :: visiting) < unvisited visiting := by
  refine countP_lt_of_imp (List.mem_finRange e) ?_ ?_ ?_
  · intro x hx
    simp_all
  · simp
  · simpa using h

/-- Resolves a type that `visiting`, its descendants on the way, does not hold. A
parent that stands among them is left out, so a cycle is cut where it closes.
Every type met on the way keeps the layout that it gets here. -/
def resolveFrom (h : Hierarchy ρ n) (c : Catalog ρ n) (e : Fin n) (visiting : List (Fin n))
    (_fresh : e ∉ visiting) : Layout ρ × Catalog ρ n :=
  match c.resolved e with
  | some l => (l, c)
  | none =>
    match h.parent e with
    | none =>
      let l := c.ownLayer h e none
      (l, c.keep e l)
    | some p =>
      if hp : p ∈ e :: visiting then
        let l := c.ownLayer h e none
        (l, c.keep e l)
      else
        let (above, c) := resolveFrom h c p (e :: visiting) hp
        let l := c.ownLayer h e (some above)
        (l, c.keep e l)
termination_by unvisited visiting
decreasing_by exact unvisited_cons_lt ‹e ∉ visiting›

def resolve (h : Hierarchy ρ n) (c : Catalog ρ n) (e : Fin n) : Layout ρ × Catalog ρ n :=
  resolveFrom h c e [] (List.not_mem_nil)

theorem resolve_of_resolved (h : Hierarchy ρ n) {c : Catalog ρ n} {e : Fin n} {l : Layout ρ}
    (known : c.resolved e = some l) : c.resolve h e = (l, c) := by
  rw [resolve, resolveFrom]
  simp [known]

end Catalog

end FieldMapping
