import FieldMapping.Listing.Factory
import FieldMapping.Reshape

/-! Runs of a catalog. Of everything that may be asked of it, only two things change
it: a new field of an unresolved type is registered, or a type is resolved. What
both of them keep holds after every run. -/

namespace FieldMapping

inductive Call (ρ : Type) (n : Nat) where
  | register (e : Fin n) (property : String) (field : Field ρ)
  | resolve (e : Fin n)
  | pagedFactory (defaults : Option PageDefaults) (e : Option (Fin n))
  | openFactory (e : Option (Fin n))
  | sourceOf (e : Fin n) (written : Option Value)
  | convert (e : Fin n) (written : Option Value) (target : Fin n)

namespace Catalog
variable {ρ : Type} {n : Nat}

def add (c : Catalog ρ n) (e : Fin n) (property : String) (field : Field ρ) : Catalog ρ n :=
  { c with registered := updateAt c.registered e (c.registered e ++ [(property, field)]) }

def ownFields (h : Hierarchy ρ n) (c : Catalog ρ n) (e : Fin n) : Assoc (Field ρ) :=
  h.declared e ++ c.registered e

theorem register_eq [DecidableEq ρ] (h : Hierarchy ρ n) (c : Catalog ρ n) (e : Fin n)
    (property : String) (field : Field ρ) :
    c.register h e property field = match (c.ownFields h e).get? property with
      | some known => (agree (h.name e) property known field).map fun _ => c
      | none =>
        if c.isResolved e then .error (.alreadyResolved (h.name e) property)
        else .ok (c.add e property field) := by
  rw [ownFields, Assoc.get?_append, register]
  cases Assoc.get? (h.declared e) property with
  | some known => rfl
  | none => cases Assoc.get? (c.registered e) property <;> rfl

structure Open (h : Hierarchy ρ n) (c : Catalog ρ n) (e : Fin n) (property : String) : Prop where
  undeclared : Assoc.get? (h.declared e) property = none
  unregistered : Assoc.get? (c.registered e) property = none
  unresolved : c.resolved e = none

theorem register_eq_ok [DecidableEq ρ] {h : Hierarchy ρ n} {c c' : Catalog ρ n} {e : Fin n}
    {property : String} {field : Field ρ} (ok : c.register h e property field = .ok c') :
    c' = c ∨ c.Open h e property ∧ c' = c.add e property field := by
  rw [register_eq] at ok
  cases known : (c.ownFields h e).get? property with
  | some existing =>
    simp only [known] at ok
    obtain ⟨_, -, same⟩ := map_eq_ok_iff.1 ok
    exact .inl same.symm
  | none =>
    simp only [known] at ok
    rw [ownFields, Assoc.get?_append, Option.or_eq_none_iff] at known
    split at ok
    · simp at ok
    · next unresolved =>
      refine .inr ⟨⟨known.1, known.2, ?_⟩, (Except.ok.inj ok).symm⟩
      simpa [isResolved] using unresolved

section
variable {P : Catalog ρ n → Prop} {h : Hierarchy ρ n} {c : Catalog ρ n}
variable (resolving : ∀ (c : Catalog ρ n) (e : Fin n), P c → P (c.resolve h e).2)
include resolving

theorem scopeOf_keeps (holds : P c) (e : Option (Fin n)) : P (c.scopeOf h e).2 := by
  cases e with
  | none => exact holds
  | some e => exact resolving c e holds

theorem sourceOf_keeps (holds : P c) (e : Fin n) (written : Option Value) :
    P (c.sourceOf h e written).2 := by
  unfold sourceOf
  split
  · exact holds
  · exact resolving c e holds
  · exact holds

omit resolving in
theorem convert_snd [Rule ρ] {α β : Type} (e : Fin n) (write : α → Option Value) (a : α)
    (target : Fin n) (read : Value → Option β) :
    (c.convert h e write a target read).2 = match c.sourceOf h e (write a) with
      | (.error _, c) => c
      | (.ok _, c) => (c.resolve h target).2 := by
  unfold convert
  rcases c.sourceOf h e (write a) with ⟨error | source, c'⟩
  · rfl
  · dsimp only
    split
    · rfl
    · rfl
    · split <;> rfl

theorem convert_keeps [Rule ρ] {α β : Type} (holds : P c) (e : Fin n) (write : α → Option Value)
    (a : α) (target : Fin n) (read : Value → Option β) :
    P (c.convert h e write a target read).2 := by
  have first := sourceOf_keeps resolving holds e (write a)
  rw [convert_snd]
  split
  · next c' found =>
    rw [found] at first
    exact first
  · next c' found =>
    rw [found] at first
    exact resolving c' target first

end

variable [DecidableEq ρ] [Rule ρ]

/-- The catalog after a call, whatever its answer was. A refused registration
leaves it as it is. -/
def after (h : Hierarchy ρ n) (c : Catalog ρ n) : Call ρ n → Catalog ρ n
  | .register e property field =>
    match c.register h e property field with
    | .ok c => c
    | .error _ => c
  | .resolve e => (c.resolve h e).2
  | .pagedFactory defaults e => (c.pagedFactory h defaults e).2
  | .openFactory e => (c.openFactory h e).2
  | .sourceOf e written => (c.sourceOf h e written).2
  | .convert e written target => (c.convert h e id written target some).2

theorem after_convert {α β : Type} (h : Hierarchy ρ n) (c : Catalog ρ n) (e : Fin n)
    (write : α → Option Value) (a : α) (target : Fin n) (read : Value → Option β) :
    c.after h (.convert e (write a) target) = (c.convert h e write a target read).2 := by
  rw [after, convert_snd, convert_snd]
  rfl

def run (h : Hierarchy ρ n) (c : Catalog ρ n) (calls : List (Call ρ n)) : Catalog ρ n :=
  calls.foldl (after h) c

/-- What a catalog can become, starting with nothing registered or resolved. -/
def Reachable (h : Hierarchy ρ n) (c : Catalog ρ n) : Prop := ∃ calls, run h empty calls = c

theorem after_keeps {P : Catalog ρ n → Prop} {h : Hierarchy ρ n}
    (adding : ∀ (c : Catalog ρ n) (e : Fin n) (property : String) (field : Field ρ),
      c.Open h e property → P c → P (c.add e property field))
    (resolving : ∀ (c : Catalog ρ n) (e : Fin n), P c → P (c.resolve h e).2)
    {c : Catalog ρ n} (holds : P c) (call : Call ρ n) : P (c.after h call) := by
  cases call with
  | register e property field =>
    rw [after]
    split
    · next c' ok =>
      rcases register_eq_ok ok with rfl | ⟨isOpen, rfl⟩
      · exact holds
      · exact adding c e property field isOpen holds
    · exact holds
  | resolve e => exact resolving c e holds
  | pagedFactory defaults e => exact scopeOf_keeps resolving holds e
  | openFactory e => exact scopeOf_keeps resolving holds e
  | sourceOf e written => exact sourceOf_keeps resolving holds e written
  | convert e written target => exact convert_keeps resolving holds e id written target some

theorem run_keeps {P : Catalog ρ n → Prop} {h : Hierarchy ρ n}
    (adding : ∀ (c : Catalog ρ n) (e : Fin n) (property : String) (field : Field ρ),
      c.Open h e property → P c → P (c.add e property field))
    (resolving : ∀ (c : Catalog ρ n) (e : Fin n), P c → P (c.resolve h e).2)
    {c : Catalog ρ n} (holds : P c) (calls : List (Call ρ n)) : P (c.run h calls) := by
  induction calls generalizing c with
  | nil => exact holds
  | cons call calls ih => exact ih (after_keeps adding resolving holds call)

end Catalog

end FieldMapping
