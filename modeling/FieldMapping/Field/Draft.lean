import FieldMapping.Field.Basic
import FieldMapping.Text.Blank

/-! A field put together setting by setting. The last word on each setting
counts, and the whole is checked only when it is finished. -/

namespace FieldMapping

inductive Setting (ρ : Type) where
  | target (target : Target ρ)
  | source (name : String)
  | required (flag : Bool)
  | symbolic (flag : Bool)
  | unfilterable (flag : Bool)
  | origin (origin : Origin)

structure Draft (ρ : Type) where
  target : Option (Target ρ) := none
  source : Option String := none
  required : Option Bool := none
  symbolic : Option Bool := none
  unfilterable : Option Bool := none
  origin : Option Origin := none

inductive DraftError where
  | emptyTarget
  | blankExpression
  | emptySource
  | noTarget
deriving DecidableEq

def DraftError.message : DraftError → String
  | emptyTarget => "FieldMapperEntryError - Invalid: destination name must not be empty"
  | blankExpression => "FieldMapperEntryError - Invalid: derived fields need a non-empty expression"
  | emptySource =>
    "FieldMapperEntryError - Invalid: source name must not be empty when given"
  | noTarget =>
    "FieldMapperEntryError - UninitializedField: Field not initialized: destination"

namespace Draft
variable {ρ : Type}

def set (d : Draft ρ) : Setting ρ → Draft ρ
  | .target t => { d with target := some t }
  | .source s => { d with source := some s }
  | .required b => { d with required := some b }
  | .symbolic b => { d with symbolic := some b }
  | .unfilterable b => { d with unfilterable := some b }
  | .origin o => { d with origin := some o }

def ofSettings (settings : List (Setting ρ)) : Draft ρ := settings.foldl set {}

def objection? (d : Draft ρ) : Option DraftError :=
  if (d.target.any fun t => t.name == "") = true then some .emptyTarget
  else if ((d.origin.bind Origin.expression?).any Text.allBlank) = true then some .blankExpression
  else if d.source = some "" then some .emptySource
  else none

/-- A missing target is noticed last. -/
def finish (d : Draft ρ) : Except DraftError (Field ρ) :=
  match d.objection?, d.target with
  | some e, _ => .error e
  | none, none => .error .noTarget
  | none, some target =>
    .ok ⟨d.source, target, d.required.getD false, d.symbolic.getD false,
      d.unfilterable.getD false, d.origin.getD .stored⟩

theorem finish_eq_ok_iff {d : Draft ρ} {f : Field ρ} :
    d.finish = .ok f ↔ d.objection? = none ∧ ∃ target, d.target = some target ∧
      f = ⟨d.source, target, d.required.getD false, d.symbolic.getD false,
        d.unfilterable.getD false, d.origin.getD .stored⟩ := by
  unfold finish
  cases d.objection? <;> cases d.target <;> simp [eq_comm]

end Draft

end FieldMapping
