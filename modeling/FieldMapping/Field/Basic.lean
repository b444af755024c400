import FieldMapping.Json.Value

/-! One exposed field: where its value is kept, under which other name it may
arrive, and what may be done with it. The type `ρ` names the rules by which
transforms compute; two transforms are the same when name and rule are. -/

namespace FieldMapping

class Rule (ρ : Type) where
  apply : ρ → Record → Value → Value

structure Transform (ρ : Type) where
  name : String
  rule : ρ
deriving DecidableEq

inductive Target (ρ : Type) where
  | column (name : String)
  | extended (name : String) (transform : Option (Transform ρ))
deriving DecidableEq

inductive Origin where
  | stored
  | derived (expression : String)
  | virtual
deriving DecidableEq

structure Field (ρ : Type) where
  source : Option String
  target : Target ρ
  required : Bool
  symbolic : Bool
  unfilterable : Bool
  origin : Origin
deriving DecidableEq

variable {ρ : Type}

namespace Target

def name : Target ρ → String
  | column name => name
  | extended name _ => name

def column? : Target ρ → Option String
  | column name => some name
  | extended _ _ => none

def transform? : Target ρ → Option (Transform ρ)
  | column _ => none
  | extended _ transform => transform

def isExtended : Target ρ → Bool
  | column _ => false
  | extended _ _ => true

theorem column?_eq_none_iff (t : Target ρ) : t.column? = none ↔ t.isExtended = true := by
  cases t <;> simp [column?, isExtended]

end Target

namespace Origin

def isDerived : Origin → Bool
  | derived _ => true
  | _ => false

def isVirtual : Origin → Bool
  | virtual => true
  | _ => false

def expression? : Origin → Option String
  | derived expression => some expression
  | _ => none

theorem isDerived_iff (o : Origin) : o.isDerived = true ↔ ∃ e, o.expression? = some e := by
  cases o <;> simp [isDerived, expression?]

theorem isVirtual_of_isDerived {o : Origin} (derived : o.isDerived = true) :
    o.isVirtual = false := by
  obtain ⟨expression, computed⟩ := o.isDerived_iff.1 derived
  cases o <;> simp_all [isVirtual, expression?]

end Origin

namespace Field

def of (target : Target ρ) : Field ρ := ⟨none, target, false, false, false, .stored⟩

def column (name : String) : Field ρ := of (.column name)

def derived (name expression : String) : Field ρ :=
  { of (.extended name none) with origin := .derived expression }

def virtual (name : String) : Field ρ := { column name with origin := .virtual }

def describe (f : Field ρ) : String :=
  match f.target with
  | .column name => name
  | .extended name (some t) => s!"{name} via {t.name}"
  | .extended name none =>
    match f.origin with
    | .derived expression => s!"{name} = {expression}"
    | _ => name

/-- Arguments can be passed on to the column of such a field. -/
def isStored (f : Field ρ) : Bool := !f.origin.isVirtual && !f.target.isExtended

end Field

end FieldMapping
