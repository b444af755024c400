import FieldMapping.Field.OfValue
import FieldMapping.Traverse

/-! What is left of a sequence of settings: of each kind the last one, whatever came
before it or between. -/

namespace FieldMapping

variable {ρ : Type}

namespace Setting

def target? : Setting ρ → Option (Target ρ)
  | target t => some t
  | _ => none

def origin? : Setting ρ → Option Origin
  | origin o => some o
  | _ => none

end Setting

def lastSetting {α : Type} (read : Setting ρ → Option α) (settings : List (Setting ρ)) : Option α :=
  settings.reverse.findSome? read

namespace Draft

theorem part_ofSettings {α : Type} {part : Draft ρ → Option α} {read : Setting ρ → Option α}
    (blank : part {} = none) (step : ∀ d s, part (d.set s) = (read s).or (part d))
    (settings : List (Setting ρ)) : part (ofSettings settings) = lastSetting read settings := by
  -- from any draft on: what the settings say of the part, and else what the draft had
  have onto : ∀ d, part (settings.foldl set d) = (lastSetting read settings).or (part d) := by
    induction settings with
    | nil => exact fun _ => rfl
    | cons s settings ih =>
      intro d
      have last : lastSetting read (s :: settings) = (lastSetting read settings).or (read s) := by
        cases hs : read s <;> simp [lastSetting, List.findSome?_append, hs]
      rw [List.foldl_cons, ih (d.set s), step, last, Option.or_assoc]
  rw [ofSettings, onto, blank, Option.or_none]

theorem target_ofSettings (settings : List (Setting ρ)) :
    (ofSettings settings).target = lastSetting Setting.target? settings :=
  part_ofSettings rfl (fun _ s => by cases s <;> rfl) settings

theorem origin_ofSettings (settings : List (Setting ρ)) :
    (ofSettings settings).origin = lastSetting Setting.origin? settings :=
  part_ofSettings rfl (fun _ s => by cases s <;> rfl) settings

theorem last_of_finish {settings : List (Setting ρ)} {f : Field ρ}
    (ok : (ofSettings settings).finish = .ok f) :
    lastSetting Setting.target? settings = some f.target ∧
      (lastSetting Setting.origin? settings).getD .stored = f.origin := by
  obtain ⟨-, target, given, rfl⟩ := finish_eq_ok_iff.1 ok
  rw [← target_ofSettings, ← origin_ofSettings]
  exact ⟨given, rfl⟩

end Draft

namespace Field

theorem ofValue_eq_ok_iff {v : Value} {f : Field ρ} :
    ofValue v = .ok f ↔ isDescription v = true ∧
      ∃ d, Description.ofValue? v = some d ∧ d.draft.finish = .ok f := by
  unfold ofValue
  cases isDescription v with
  | false => simp
  | true => cases Description.ofValue? v <;> simp [mapError_eq_ok_iff]

theorem derived_iff_of_ofValue {v : Value} {f : Field ρ} (ok : ofValue v = .ok f) :
    f.origin.isDerived = true ↔ f.target.isExtended = true := by
  obtain ⟨-, d, -, finished⟩ := ofValue_eq_ok_iff.1 ok
  obtain ⟨-, target, given, rfl⟩ := Draft.finish_eq_ok_iff.1 finished
  have same := Option.some.inj given
  rw [← same]
  cases ho : d.origin <;> simp [Description.draft, ho, Origin.isDerived, Target.isExtended]

end Field

end FieldMapping
