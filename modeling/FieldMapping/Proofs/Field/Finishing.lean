import FieldMapping.Proofs.Field.Settings

/-! What comes of a sequence of settings, of any length and in any order. A draft holds
the last setting of each kind and nothing else, so these alone decide. It is finished into
a field made of them, or refused for the first fault they have: the target's name first,
then the expression, then the source, and a target that was never set at the end. -/

namespace FieldMapping

variable {ρ : Type} {settings others : List (Setting ρ)}

namespace Setting

inductive Kind where
  | target | source | required | symbolic | unfilterable | origin
deriving DecidableEq

def kind : Setting ρ → Kind
  | target _ => .target
  | source _ => .source
  | required _ => .required
  | symbolic _ => .symbolic
  | unfilterable _ => .unfilterable
  | origin _ => .origin

def ofKind? (k : Kind) (s : Setting ρ) : Option (Setting ρ) := if s.kind = k then some s else none

theorem ofKind?_eq_some_iff {k : Kind} {s t : Setting ρ} :
    ofKind? k s = some t ↔ s.kind = k ∧ s = t := by
  simp [ofKind?]

theorem ofKind?_eq_none_iff {k : Kind} {s : Setting ρ} : ofKind? k s = none ↔ s.kind ≠ k := by
  simp [ofKind?]

end Setting

/-- The setting is made, and none of its kind after it. -/
def LastSet (settings : List (Setting ρ)) (s : Setting ρ) : Prop :=
  ∃ before after, settings = before ++ s :: after ∧ ∀ t ∈ after, t.kind ≠ s.kind

def NeverSet (settings : List (Setting ρ)) (k : Setting.Kind) : Prop := ∀ s ∈ settings, s.kind ≠ k

inductive LastOr (settings : List (Setting ρ)) (default : Setting ρ) : Setting ρ → Prop
  | last {s : Setting ρ} (last : LastSet settings s) : LastOr settings default s
  | unset (never : NeverSet settings default.kind) : LastOr settings default default

theorem lastSetting_ofKind?_eq_some_iff {k : Setting.Kind} {s : Setting ρ} :
    lastSetting (Setting.ofKind? k) settings = some s ↔ s.kind = k ∧ LastSet settings s := by
  rw [lastSetting, List.findSome?_eq_some_iff]
  -- the search runs backwards, so what it passes over comes later
  constructor
  · rintro ⟨after, t, before, split, found, passed⟩
    obtain ⟨kind, rfl⟩ := Setting.ofKind?_eq_some_iff.1 found
    refine ⟨kind, before.reverse, after.reverse, ?_, fun u later => ?_⟩
    · simpa using congrArg List.reverse split
    · rw [kind]
      exact Setting.ofKind?_eq_none_iff.1 (passed u (List.mem_reverse.1 later))
  · rintro ⟨kind, before, after, rfl, last⟩
    refine ⟨after.reverse, s, before.reverse, by simp,
      Setting.ofKind?_eq_some_iff.2 ⟨kind, rfl⟩, fun u later => ?_⟩
    rw [kind] at last
    exact Setting.ofKind?_eq_none_iff.2 (last u (List.mem_reverse.1 later))

theorem lastSetting_ofKind?_eq_none_iff {k : Setting.Kind} :
    lastSetting (Setting.ofKind? k) settings = none ↔ NeverSet settings k := by
  simp [lastSetting, Setting.ofKind?_eq_none_iff, NeverSet]

namespace Draft

def setting? (d : Draft ρ) : Setting.Kind → Option (Setting ρ)
  | .target => d.target.map .target
  | .source => d.source.map .source
  | .required => d.required.map .required
  | .symbolic => d.symbolic.map .symbolic
  | .unfilterable => d.unfilterable.map .unfilterable
  | .origin => d.origin.map .origin

theorem setting?_ofSettings (settings : List (Setting ρ)) (k : Setting.Kind) :
    (ofSettings settings).setting? k = lastSetting (Setting.ofKind? k) settings := by
  have step : ∀ (d : Draft ρ) s, (d.set s).setting? k = (Setting.ofKind? k s).or (d.setting? k) := by
    intro d s
    cases k <;> cases s <;> rfl
  have blank : ({} : Draft ρ).setting? k = none := by cases k <;> rfl
  exact @part_ofSettings ρ _ (setting? · k) _ blank step settings

theorem setting?_eq_some_iff {k : Setting.Kind} {s : Setting ρ} :
    (ofSettings settings).setting? k = some s ↔ s.kind = k ∧ LastSet settings s := by
  rw [setting?_ofSettings, lastSetting_ofKind?_eq_some_iff]

theorem setting?_eq_none_iff {k : Setting.Kind} :
    (ofSettings settings).setting? k = none ↔ NeverSet settings k := by
  rw [setting?_ofSettings, lastSetting_ofKind?_eq_none_iff]

theorem lastSet_iff {s : Setting ρ} :
    LastSet settings s ↔ (ofSettings settings).setting? s.kind = some s := by
  simp [setting?_eq_some_iff]

theorem eq_of_setting? {d e : Draft ρ} (same : ∀ k, d.setting? k = e.setting? k) : d = e := by
  have target := same .target
  have source := same .source
  have required := same .required
  have symbolic := same .symbolic
  have unfilterable := same .unfilterable
  have origin := same .origin
  cases d
  cases e
  simp_all [setting?, Option.map_inj_right]

theorem ofSettings_congr (same : ∀ s, LastSet settings s ↔ LastSet others s) :
    ofSettings settings = ofSettings others := by
  refine eq_of_setting? fun k => Option.ext fun s => ?_
  rw [setting?_eq_some_iff, setting?_eq_some_iff, same]

theorem target_eq_some_iff {t : Target ρ} :
    (ofSettings settings).target = some t ↔ LastSet settings (.target t) := by
  simp [lastSet_iff, setting?, Setting.kind]

theorem source_eq_some_iff {name : String} :
    (ofSettings settings).source = some name ↔ LastSet settings (.source name) := by
  simp [lastSet_iff, setting?, Setting.kind]

theorem origin_eq_some_iff {o : Origin} :
    (ofSettings settings).origin = some o ↔ LastSet settings (.origin o) := by
  simp [lastSet_iff, setting?, Setting.kind]

theorem target_eq_none_iff : (ofSettings settings).target = none ↔ NeverSet settings .target := by
  simp [← setting?_eq_none_iff, setting?]

theorem lastOr_getD {α : Type} {part : Option α} {setting : α → Setting ρ} (default : α)
    (held : (ofSettings settings).setting? (setting default).kind = part.map setting) :
    LastOr settings (setting default) (setting (part.getD default)) := by
  cases part with
  | none => exact .unset (setting?_eq_none_iff.1 held)
  | some a => exact .last (setting?_eq_some_iff.1 held).2

structure MadeOf (settings : List (Setting ρ)) (f : Field ρ) : Prop where
  target : LastSet settings (.target f.target)
  source : ∀ name, f.source = some name ↔ LastSet settings (.source name)
  required : LastOr settings (.required false) (.required f.required)
  symbolic : LastOr settings (.symbolic false) (.symbolic f.symbolic)
  unfilterable : LastOr settings (.unfilterable false) (.unfilterable f.unfilterable)
  origin : LastOr settings (.origin .stored) (.origin f.origin)

theorem madeOf_of_finish {f : Field ρ} (ok : (ofSettings settings).finish = .ok f) :
    MadeOf settings f := by
  obtain ⟨-, t, given, rfl⟩ := finish_eq_ok_iff.1 ok
  exact
    { target := target_eq_some_iff.1 given
      source := fun _ => source_eq_some_iff
      required := lastOr_getD false rfl
      symbolic := lastOr_getD false rfl
      unfilterable := lastOr_getD false rfl
      origin := lastOr_getD Origin.stored rfl }

inductive Faulty (settings : List (Setting ρ)) : DraftError → Prop
  | emptyTarget {t : Target ρ} (last : LastSet settings (.target t)) (empty : t.name = "") :
    Faulty settings .emptyTarget
  | blankExpression {e : String} (last : LastSet settings (.origin (.derived e)))
    (blank : Text.trim e.toList = []) : Faulty settings .blankExpression
  | emptySource (last : LastSet settings (.source "")) : Faulty settings .emptySource
  | noTarget (never : NeverSet settings .target) : Faulty settings .noTarget

theorem faulty_emptyTarget_iff : Faulty settings .emptyTarget ↔
    ((ofSettings settings).target.any fun t => t.name == "") = true := by
  rw [Option.any_eq_true]
  constructor
  · intro faulty
    cases faulty with
    | emptyTarget last empty => exact ⟨_, target_eq_some_iff.2 last, beq_iff_eq.2 empty⟩
  · rintro ⟨t, given, empty⟩
    exact .emptyTarget (target_eq_some_iff.1 given) (beq_iff_eq.1 empty)

theorem faulty_blankExpression_iff : Faulty settings .blankExpression ↔
    ((ofSettings settings).origin.bind Origin.expression?).any Text.allBlank = true := by
  rw [Option.any_eq_true]
  constructor
  · intro faulty
    cases faulty with
    | blankExpression last blank =>
      have given := origin_eq_some_iff.2 last
      exact ⟨_, Option.bind_eq_some_iff.2 ⟨_, given, rfl⟩, Text.trim_eq_nil_iff.1 blank⟩
  · rintro ⟨e, computed, blank⟩
    obtain ⟨o, given, expression⟩ := Option.bind_eq_some_iff.1 computed
    cases o <;> cases expression
    exact .blankExpression (origin_eq_some_iff.1 given) (Text.trim_eq_nil_iff.2 blank)

theorem faulty_emptySource_iff :
    Faulty settings .emptySource ↔ (ofSettings settings).source = some "" := by
  rw [source_eq_some_iff]
  exact ⟨fun | .emptySource last => last, .emptySource⟩

theorem faulty_noTarget_iff : Faulty settings .noTarget ↔ (ofSettings settings).target = none := by
  rw [target_eq_none_iff]
  exact ⟨fun | .noTarget never => never, .noTarget⟩

instance : (e : DraftError) → Decidable (Faulty settings e)
  | .emptyTarget => decidable_of_iff _ faulty_emptyTarget_iff.symm
  | .blankExpression => decidable_of_iff _ faulty_blankExpression_iff.symm
  | .emptySource => decidable_of_iff _ faulty_emptySource_iff.symm
  | .noTarget => decidable_of_iff _ faulty_noTarget_iff.symm

def faultOrder : List DraftError := [.emptyTarget, .blankExpression, .emptySource, .noTarget]

def firstFault? (settings : List (Setting ρ)) : Option DraftError :=
  faultOrder.find? fun e => Faulty settings e

theorem firstFault?_eq : firstFault? settings =
    (ofSettings settings).objection?.or
      (if (ofSettings settings).target = none then some .noTarget else none) := by
  simp only [firstFault?, faultOrder, objection?, List.find?_cons, List.find?_nil,
    ← faulty_emptyTarget_iff, ← faulty_blankExpression_iff, ← faulty_emptySource_iff,
    ← faulty_noTarget_iff]
  -- now both sides ask for the same four faults, one after the other
  by_cases target : Faulty settings .emptyTarget <;>
    by_cases expression : Faulty settings .blankExpression <;>
    by_cases source : Faulty settings .emptySource <;>
    by_cases missing : Faulty settings .noTarget <;>
    simp [target, expression, source, missing]

theorem firstFault?_eq_none_iff : firstFault? settings = none ↔ ∀ e, ¬ Faulty settings e := by
  have listed : ∀ e, e ∈ faultOrder := fun e => by cases e <;> decide
  simp [firstFault?, listed]

theorem finish_eq_error_iff {e : DraftError} :
    (ofSettings settings).finish = .error e ↔ firstFault? settings = some e := by
  rw [firstFault?_eq, finish]
  cases (ofSettings settings).objection? <;> cases (ofSettings settings).target <;> simp

theorem finish_passes_iff :
    (∃ f, (ofSettings settings).finish = .ok f) ↔ ∀ e, ¬ Faulty settings e := by
  rw [← firstFault?_eq_none_iff]
  constructor
  · rintro ⟨f, ok⟩
    cases found : firstFault? settings with
    | none => rfl
    | some e => simp [finish_eq_error_iff.2 found] at ok
  · intro clear
    cases made : (ofSettings settings).finish with
    | ok f => exact ⟨f, rfl⟩
    | error e => simp [finish_eq_error_iff.1 made] at clear

structure Complete (settings : List (Setting ρ)) : Prop where
  target : ∃ t, LastSet settings (.target t) ∧ t.name ≠ ""
  origin : ∀ e, LastSet settings (.origin (.derived e)) → Text.trim e.toList ≠ []
  source : ∀ name, LastSet settings (.source name) → name ≠ ""

theorem complete_iff : Complete settings ↔ ∀ e, ¬ Faulty settings e := by
  constructor
  · intro complete e faulty
    obtain ⟨t, last, named⟩ := complete.target
    have given := target_eq_some_iff.2 last
    cases faulty with
    | emptyTarget last' empty =>
      rw [target_eq_some_iff.2 last'] at given
      cases given
      exact named empty
    | blankExpression last blank => exact complete.origin _ last blank
    | emptySource last => exact complete.source _ last rfl
    | noTarget never => simp [target_eq_none_iff.2 never] at given
  · intro clear
    refine ⟨?_, fun e last blank => clear _ (.blankExpression last blank), ?_⟩
    · cases given : (ofSettings settings).target with
      | none => exact absurd (.noTarget (target_eq_none_iff.1 given)) (clear _)
      | some t =>
        have last := target_eq_some_iff.1 given
        exact ⟨t, last, fun empty => clear _ (.emptyTarget last empty)⟩
    · rintro name last rfl
      exact clear _ (.emptySource last)

/-- Only the last setting of each kind decides what comes of a draft. It becomes a field
exactly when these are in order, and the field is made of them; otherwise it is refused for
the first of their faults. -/
theorem finish_judges_last_settings (settings : List (Setting ρ)) :
    ((∃ f, (ofSettings settings).finish = .ok f) ↔ Complete settings) ∧
    (∀ f, (ofSettings settings).finish = .ok f → MadeOf settings f) ∧
    (∀ e, (ofSettings settings).finish = .error e ↔ firstFault? settings = some e) ∧
    ∀ others, (∀ s, LastSet settings s ↔ LastSet others s) →
      (ofSettings settings).finish = (ofSettings others).finish := by
  refine ⟨?_, fun f ok => madeOf_of_finish ok, fun e => finish_eq_error_iff, fun others same => ?_⟩
  · rw [finish_passes_iff, complete_iff]
  · rw [ofSettings_congr same]

def revised : List (Setting Unit) :=
  [.origin (.derived " "), .target (.column ""), .source "", .required true,
    .origin (.derived " first || last "), .source "name", .required false,
    .target (.extended "full_name" none)]

def settled : List (Setting Unit) :=
  [.target (.extended "full_name" none), .required false, .source "name",
    .origin (.derived " first || last ")]

def spoilt : List (Setting Unit) :=
  [.source "", .origin (.derived " first || last "), .symbolic true, .origin (.derived "\t ")]

theorem finish_judges_revised_full_name :
    let f : Field Unit := { Field.derived "full_name" " first || last " with source := some "name" }
    (ofSettings revised).finish = .ok f ∧ MadeOf revised f ∧
    (∀ s, LastSet revised s ↔ LastSet settled s) ∧
    (ofSettings revised).finish = (ofSettings settled).finish ∧
    Faulty spoilt .emptySource ∧ Faulty spoilt .noTarget ∧
    (ofSettings spoilt).finish = .error .blankExpression := by
  intro f
  obtain ⟨-, made, -, congruent⟩ := finish_judges_last_settings revised
  have ok : (ofSettings revised).finish = .ok f := rfl
  have same : ∀ s, LastSet revised s ↔ LastSet settled s := fun s => by
    rw [lastSet_iff, lastSet_iff]
    rfl
  have refused := ((finish_judges_last_settings spoilt).2.2.1 .blankExpression).2 (by decide)
  exact ⟨ok, made f ok, same, congruent settled same, by decide, by decide, refused⟩

end Draft

end FieldMapping
