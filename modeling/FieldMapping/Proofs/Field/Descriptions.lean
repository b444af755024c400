import FieldMapping.Proofs.Field.Settings

/-! Which values describe a field. What a description says is read off its members one by
one, each with what it means when it is missing. Reading a field looks for its destination
first, then at the types of all other members, and at the rules of a draft only when every
member has its type. -/

namespace FieldMapping.Field
variable {ρ : Type}

def OriginName.name : OriginName → String
  | .regular => "regular"
  | .derived => "derived"
  | .virtual => "virtual"

theorem OriginName.ofName?_eq_some_iff {s : String} {o : OriginName} :
    ofName? s = some o ↔ s = o.name := by
  constructor
  · intro named
    unfold ofName? at named
    split at named <;> cases named <;> rfl
  · rintro rfl
    cases o <;> rfl

inductive Member {α : Type} (default : α) (reads : Value → α → Prop) : Option Value → α → Prop
  | missing : Member default reads none default
  | given {w : Value} {a : α} (read : reads w a) : Member default reads (some w) a

inductive NullableText : Value → Option String → Prop
  | null : NullableText .null none
  | text (s : String) : NullableText (.string s) (some s)

inductive Flag : Value → Bool → Prop
  | flag (b : Bool) : Flag (.bool b) b

inductive Origins : Value → OriginName → Prop
  | name (o : OriginName) : Origins (.string o.name) o
  | key (o : OriginName) : Origins (.object [(o.name, .null)]) o

structure Describes (v : Value) (d : Description) : Prop where
  destination : v.member? "destinationName" = some (.string d.destination)
  source : Member none NullableText (v.member? "sourceName") d.source
  required : Member false Flag (v.member? "isRequired") d.required
  symbolic : Member false Flag (v.member? "isSymbolic") d.symbolic
  unfilterable : Member false Flag (v.member? "denyFilter") d.unfilterable
  origin : Member .regular Origins (v.member? "mode") d.origin
  expression : Member none NullableText (v.member? "expression") d.expression

inductive Mistyped (v : Value) : Prop
  | text (key : String) (kept : key ∈ ["sourceName", "expression"]) (w : Value)
    (found : v.member? key = some w) (other : w.kind ≠ .null ∧ w.kind ≠ .string)
  | flag (key : String) (kept : key ∈ ["isRequired", "isSymbolic", "denyFilter"]) (w : Value)
    (found : v.member? key = some w) (other : w.kind ≠ .boolean)
  | origin (w : Value) (found : v.member? "mode" = some w)
    (other : ∀ o : OriginName, w ≠ .string o.name ∧ w ≠ .object [(o.name, .null)])

section
variable {w : Value}

theorem nullableText_iff {s : Option String} :
    Json.nullable? Value.text? w = some s ↔ NullableText w s := by
  constructor
  · intro read
    cases w <;> cases read <;> constructor
  · rintro (_ | _) <;> rfl

theorem flag_iff {b : Bool} : Json.bool? w = some b ↔ Flag w b := by
  constructor
  · intro read
    cases w <;> cases read
    constructor
  · rintro ⟨⟩
    rfl

theorem origins_iff {o : OriginName} :
    Json.variant? OriginName.ofName? w = some o ↔ Origins w o := by
  constructor
  · intro read
    unfold Json.variant? at read
    split at read
    · exact OriginName.ofName?_eq_some_iff.1 read ▸ .name o
    · exact OriginName.ofName?_eq_some_iff.1 read ▸ .key o
    · cases read
  · rintro (_ | _) <;> exact OriginName.ofName?_eq_some_iff.2 rfl

theorem exists_nullableText_iff :
    (∃ s, NullableText w s) ↔ ¬ (w.kind ≠ .null ∧ w.kind ≠ .string) := by
  simp only [← nullableText_iff]
  cases w <;> simp [Json.nullable?, Value.text?, Value.kind]

theorem exists_flag_iff : (∃ b, Flag w b) ↔ ¬ w.kind ≠ .boolean := by
  simp only [← flag_iff]
  cases w <;> simp [Json.bool?, Value.kind]

theorem exists_origins_iff : (∃ o, Origins w o) ↔
    ¬ ∀ o : OriginName, w ≠ .string o.name ∧ w ≠ .object [(o.name, .null)] := by
  constructor
  · rintro ⟨o, name | key⟩ other
    · exact (other o).1 rfl
    · exact (other o).2 rfl
  · intro some
    obtain ⟨o, either⟩ := Classical.not_forall.1 some
    by_cases name : w = .string o.name
    · exact ⟨o, name ▸ .name o⟩
    · have key := Classical.not_not.1 fun differs => either ⟨name, differs⟩
      exact ⟨o, key ▸ .key o⟩

end

section
variable {α : Type} {default : α} {read : Value → Option α} {reads : Value → α → Prop}

theorem exists_member_iff {found : Option Value} :
    (∃ a, Member default reads found a) ↔ ∀ w, found = some w → ∃ a, reads w a := by
  cases found with
  | none => exact ⟨fun _ => nofun, fun _ => ⟨default, .missing⟩⟩
  | some w =>
    constructor
    · rintro ⟨a, _ | here⟩ _ ⟨⟩
      exact ⟨a, here⟩
    · intro each
      obtain ⟨a, here⟩ := each w rfl
      exact ⟨a, .given here⟩

theorem withDefault?_iff (reading : ∀ {w a}, read w = some a ↔ reads w a) (p : Json.Parts)
    (key : String) (a : α) :
    p.withDefault? key default read = some a ↔ Member default reads (p.find key) a := by
  unfold Json.Parts.withDefault?
  cases p.find key with
  | none =>
    constructor
    · rintro ⟨⟩
      exact .missing
    · rintro ⟨⟩
      rfl
  | some w =>
    constructor
    · exact fun here => .given (reading.1 here)
    · rintro (_ | here)
      exact reading.2 here

end

theorem required?_text_iff {p : Json.Parts} {key s : String} :
    p.required? key Value.text? = some s ↔ p.find key = some (.string s) := by
  rw [Json.Parts.required?, Option.bind_eq_some_iff]
  constructor
  · rintro ⟨w, found, read⟩
    cases w <;> cases read
    exact found
  · exact fun found => ⟨_, found, rfl⟩

theorem ofValue?_object_iff {members : Record} {d : Description} :
    Description.ofValue? (.object members) = some d ↔ Describes (.object members) d := by
  simp only [Description.ofValue?, Json.parts?, Option.bind_eq_bind, Option.bind_eq_some_iff,
    Option.some.injEq, exists_eq_left', withDefault?_iff nullableText_iff,
    withDefault?_iff flag_iff, withDefault?_iff origins_iff, required?_text_iff]
  constructor
  · rintro ⟨_, source, _, destination, _, required, _, symbolic, _, unfilterable, _, origin, _,
      expression, rfl⟩
    exact ⟨destination, source, required, symbolic, unfilterable, origin, expression⟩
  · intro said
    exact ⟨_, said.source, _, said.destination, _, said.required, _, said.symbolic, _,
      said.unfilterable, _, said.origin, _, said.expression, rfl⟩

section
variable {v : Value} {d : Description} {f : Field ρ}

theorem exists_object_of_member? {key : String} {w : Value} (found : v.member? key = some w) :
    ∃ members, v = .object members := by
  cases v with
  | object members => exact ⟨members, rfl⟩
  | _ => cases found

theorem isDescription_iff :
    isDescription v = true ↔ ∃ s, v.member? "destinationName" = some (.string s) ∧ s ≠ "" := by
  unfold isDescription
  split
  · next s found => simp [found]
  · next other =>
    refine ⟨nofun, ?_⟩
    rintro ⟨s, found, -⟩
    exact absurd found (other s)

theorem ofValue?_eq_some_iff (named : isDescription v = true) :
    Description.ofValue? v = some d ↔ Describes v d := by
  obtain ⟨s, found, -⟩ := isDescription_iff.1 named
  obtain ⟨members, rfl⟩ := exists_object_of_member? found
  exact ofValue?_object_iff

theorem Describes.named_iff (said : Describes v d) :
    isDescription v = true ↔ d.destination ≠ "" := by
  rw [isDescription_iff, said.destination]
  simp

theorem exists_describes_iff (named : isDescription v = true) :
    (∃ d, Describes v d) ↔ ¬ Mistyped v := by
  constructor
  · rintro ⟨d, said⟩
      (⟨key, kept, w, found, other⟩ | ⟨key, kept, w, found, other⟩ | ⟨w, found, other⟩)
    · have read : ∃ s, NullableText w s := by
        have two : key = "sourceName" ∨ key = "expression" := by simpa using kept
        rcases two with rfl | rfl
        · exact exists_member_iff.1 ⟨_, said.source⟩ w found
        · exact exists_member_iff.1 ⟨_, said.expression⟩ w found
      exact exists_nullableText_iff.1 read other
    · have read : ∃ b, Flag w b := by
        have three : key = "isRequired" ∨ key = "isSymbolic" ∨ key = "denyFilter" := by
          simpa using kept
        rcases three with rfl | rfl | rfl
        · exact exists_member_iff.1 ⟨_, said.required⟩ w found
        · exact exists_member_iff.1 ⟨_, said.symbolic⟩ w found
        · exact exists_member_iff.1 ⟨_, said.unfilterable⟩ w found
      exact exists_flag_iff.1 read other
    · exact exists_origins_iff.1 (exists_member_iff.1 ⟨_, said.origin⟩ w found) other
  · intro typed
    obtain ⟨destination, there, -⟩ := isDescription_iff.1 named
    have text : ∀ key ∈ ["sourceName", "expression"],
        ∃ s, Member none NullableText (v.member? key) s := fun key kept =>
      exists_member_iff.2 fun w found =>
        exists_nullableText_iff.2 fun other => typed (.text key kept w found other)
    have flag : ∀ key ∈ ["isRequired", "isSymbolic", "denyFilter"],
        ∃ b, Member false Flag (v.member? key) b := fun key kept =>
      exists_member_iff.2 fun w found =>
        exists_flag_iff.2 fun other => typed (.flag key kept w found other)
    have origin : ∃ o, Member .regular Origins (v.member? "mode") o :=
      exists_member_iff.2 fun w found =>
        exists_origins_iff.2 fun other => typed (.origin w found other)
    obtain ⟨source, source'⟩ := text "sourceName" (by decide)
    obtain ⟨expression, expression'⟩ := text "expression" (by decide)
    obtain ⟨required, required'⟩ := flag "isRequired" (by decide)
    obtain ⟨symbolic, symbolic'⟩ := flag "isSymbolic" (by decide)
    obtain ⟨unfilterable, unfilterable'⟩ := flag "denyFilter" (by decide)
    obtain ⟨o, origin'⟩ := origin
    exact ⟨⟨destination, source, required, symbolic, unfilterable, o, expression⟩, there, source',
      required', symbolic', unfilterable', origin', expression'⟩

def Description.Blank (d : Description) : Prop :=
  d.origin = .derived ∧ Text.trim (d.expression.getD "").toList = []

instance (d : Description) : Decidable d.Blank := inferInstanceAs (Decidable (_ ∧ _))

structure Carries (f : Field ρ) (d : Description) : Prop where
  source : f.source = d.source
  required : f.required = d.required
  symbolic : f.symbolic = d.symbolic
  unfilterable : f.unfilterable = d.unfilterable
  target : f.target =
    if d.origin = .derived then .extended d.destination none else .column d.destination
  expression : f.origin.expression? = if d.origin = .derived then d.expression else none
  virtual : f.origin.isVirtual = true ↔ d.origin = .virtual

theorem Description.objection?_draft (d : Description) (named : d.destination ≠ "") :
    (d.draft : Draft ρ).objection? =
      if d.Blank then some .blankExpression
      else if d.source = some "" then some .emptySource else none := by
  have target : ((d.draft : Draft ρ).target.any fun t => t.name == "") = false := by
    cases ho : d.origin <;> simp [draft, ho, Target.name, named]
  have blank : (((d.draft : Draft ρ).origin.bind Origin.expression?).any Text.allBlank) = true ↔
      d.Blank := by
    rw [Blank, Text.trim_eq_nil_iff]
    cases ho : d.origin <;> simp [draft, ho, Origin.expression?, Text.allBlank]
  have source : (d.draft : Draft ρ).source = d.source := by
    cases ho : d.origin <;> simp [draft, ho]
  rw [Draft.objection?, target, source]
  simp [blank]

theorem Description.finish_draft_eq_error_iff {e : DraftError} :
    (d.draft : Draft ρ).finish = .error e ↔ (d.draft : Draft ρ).objection? = some e := by
  obtain ⟨t, given⟩ : ∃ t, (d.draft : Draft ρ).target = some t := ⟨_, rfl⟩
  rw [Draft.finish, given]
  cases (d.draft : Draft ρ).objection? <;> simp

theorem Description.finish_draft_passes_iff :
    (∃ f : Field ρ, d.draft.finish = .ok f) ↔ (d.draft : Draft ρ).objection? = none := by
  obtain ⟨t, given⟩ : ∃ t, (d.draft : Draft ρ).target = some t := ⟨_, rfl⟩
  rw [Draft.finish, given]
  cases (d.draft : Draft ρ).objection? <;> simp

theorem Description.carries_of_finish (filled : ¬ d.Blank)
    (finished : (d.draft : Draft ρ).finish = .ok f) : Carries f d := by
  obtain ⟨-, target, given, rfl⟩ := Draft.finish_eq_ok_iff.1 finished
  cases Option.some.inj given
  -- a derived field that is not blank has an expression, which nothing stands in for
  have kept : d.origin = .derived → some (d.expression.getD "") = d.expression := by
    intro derived
    cases known : d.expression with
    | none => exact absurd ⟨derived, by rw [known]; rfl⟩ filled
    | some _ => rfl
  cases ho : d.origin with
  | derived => constructor <;> simp [draft, ho, Origin.expression?, Origin.isVirtual, kept ho]
  | regular => constructor <;> simp [draft, ho, Origin.expression?, Origin.isVirtual]
  | virtual => constructor <;> simp [draft, ho, Origin.expression?, Origin.isVirtual]

theorem ofValue_of_describes (said : Describes v d) (named : d.destination ≠ "") :
    (ofValue v : Except ReadError (Field ρ)) = d.draft.finish.mapError .draft := by
  have known := said.named_iff.2 named
  rw [ofValue, if_pos known, (ofValue?_eq_some_iff known).2 said]

theorem ofValue_cases (v : Value) :
    (isDescription v = false ∧ (ofValue v : Except ReadError (Field ρ)) = .error .noDestination) ∨
    (isDescription v = true ∧ Mistyped v ∧
      (ofValue v : Except ReadError (Field ρ)) = .error .illTyped) ∨
    ∃ d, Describes v d ∧ d.destination ≠ "" ∧
      (ofValue v : Except ReadError (Field ρ)) = d.draft.finish.mapError .draft := by
  cases known : isDescription v with
  | false => exact .inl ⟨rfl, by simp [ofValue, known]⟩
  | true =>
    right
    cases read : Description.ofValue? v with
    | none =>
      have silent : ¬ ∃ d, Describes v d := by
        rintro ⟨d, said⟩
        simp [(ofValue?_eq_some_iff known).2 said] at read
      rw [exists_describes_iff known, Classical.not_not] at silent
      exact .inl ⟨rfl, silent, by simp [ofValue, known, read]⟩
    | some d =>
      have said := (ofValue?_eq_some_iff known).1 read
      have named := said.named_iff.1 known
      exact .inr ⟨d, said, named, ofValue_of_describes said named⟩

theorem exists_ofValue_iff : (∃ f : Field ρ, ofValue v = .ok f) ↔
    ∃ d, Describes v d ∧ d.destination ≠ "" ∧ (d.draft : Draft ρ).objection? = none := by
  constructor
  · rintro ⟨f, ok⟩
    obtain ⟨known, d, read, finished⟩ := ofValue_eq_ok_iff.1 ok
    have said := (ofValue?_eq_some_iff known).1 read
    exact ⟨d, said, said.named_iff.1 known, Description.finish_draft_passes_iff.1 ⟨f, finished⟩⟩
  · rintro ⟨d, said, named, silent⟩
    obtain ⟨f, finished⟩ := Description.finish_draft_passes_iff.2 silent
    exact ⟨f, by rw [ofValue_of_describes said named, finished]; rfl⟩

theorem ofValue_eq_draft_error_iff {e : DraftError} :
    (ofValue v : Except ReadError (Field ρ)) = .error (.draft e) ↔
      ∃ d, Describes v d ∧ d.destination ≠ "" ∧ (d.draft : Draft ρ).objection? = some e := by
  constructor
  · intro refused
    rcases ofValue_cases (ρ := ρ) v with ⟨-, result⟩ | ⟨-, -, result⟩ | ⟨d, said, named, result⟩
    · simp [result] at refused
    · simp [result] at refused
    · obtain ⟨cause, stopped, ⟨⟩⟩ := mapError_eq_error_iff.1 (result.symm.trans refused)
      exact ⟨d, said, named, Description.finish_draft_eq_error_iff.1 stopped⟩
  · rintro ⟨d, said, named, objects⟩
    rw [ofValue_of_describes said named, Description.finish_draft_eq_error_iff.2 objects]
    rfl

theorem exists_objection_iff {e : Option DraftError} {P : Description → Prop}
    (means : ∀ d : Description, (if d.Blank then some .blankExpression
      else if d.source = some "" then some .emptySource else none) = e ↔ P d) :
    (∃ d, Describes v d ∧ d.destination ≠ "" ∧ (d.draft : Draft ρ).objection? = e) ↔
      ∃ d, Describes v d ∧ d.destination ≠ "" ∧ P d := by
  refine exists_congr fun d => and_congr_right fun _ => and_congr_right fun named => ?_
  rw [d.objection?_draft named, means]

theorem message?_eq_noDestination_iff {e : ReadError} :
    e.message? = ReadError.noDestination.message? ↔ e = .noDestination := by
  cases e with
  | noDestination => simp
  | illTyped => simp [ReadError.message?]
  | draft cause => cases cause <;> simp [ReadError.message?, DraftError.message]

theorem ofValue_eq_noDestination_iff :
    (ofValue v : Except ReadError (Field ρ)) = .error .noDestination ↔ isDescription v = false := by
  constructor
  · intro refused
    rcases ofValue_cases (ρ := ρ) v with ⟨unknown, -⟩ | ⟨-, -, result⟩ | ⟨d, -, -, result⟩
    · exact unknown
    · simp [result] at refused
    · obtain ⟨cause, -, other⟩ := mapError_eq_error_iff.1 (result.symm.trans refused)
      cases other
  · intro unknown
    simp [ofValue, unknown]

theorem ofValue_eq_illTyped_iff :
    (ofValue v : Except ReadError (Field ρ)) = .error .illTyped ↔
      isDescription v = true ∧ Mistyped v := by
  constructor
  · intro refused
    rcases ofValue_cases (ρ := ρ) v with ⟨-, result⟩ | ⟨known, bad, -⟩ | ⟨d, -, -, result⟩
    · simp [result] at refused
    · exact ⟨known, bad⟩
    · obtain ⟨cause, -, other⟩ := mapError_eq_error_iff.1 (result.symm.trans refused)
      cases other
  · rintro ⟨known, bad⟩
    rcases ofValue_cases (ρ := ρ) v with ⟨unknown, -⟩ | ⟨-, -, result⟩ | ⟨d, said, -, -⟩
    · simp [known] at unknown
    · exact result
    · exact absurd bad ((exists_describes_iff known).1 ⟨d, said⟩)

end

/-- A value is read as a field exactly when its members are in order, and the field has
what they say. A missing destination is noticed first and a mistyped member next, whatever
else is wrong; a blank expression comes before an empty source name. -/
theorem ofValue_judges_members (v : Value) :
    ((∃ f : Field ρ, ofValue v = .ok f) ↔
      ∃ d, Describes v d ∧ d.destination ≠ "" ∧ ¬ d.Blank ∧ d.source ≠ some "") ∧
    (∀ f : Field ρ, ofValue v = .ok f → ∃ d, Describes v d ∧ Carries f d) ∧
    ((∃ e, (ofValue v : Except ReadError (Field ρ)) = .error e ∧
        e.message? = some "FieldMapperEntryError - Invalid: value has no destinationName") ↔
      isDescription v = false) ∧
    (isDescription v = true ↔
      ∃ s, v.member? "destinationName" = some (.string s) ∧ s ≠ "") ∧
    ((ofValue v : Except ReadError (Field ρ)) = .error .illTyped ↔
      isDescription v = true ∧ Mistyped v) ∧
    ((ofValue v : Except ReadError (Field ρ)) = .error (.draft .blankExpression) ↔
      ∃ d, Describes v d ∧ d.destination ≠ "" ∧ d.Blank) ∧
    ((ofValue v : Except ReadError (Field ρ)) = .error (.draft .emptySource) ↔
      ∃ d, Describes v d ∧ d.destination ≠ "" ∧ ¬ d.Blank ∧ d.source = some "") := by
  refine ⟨?_, fun f ok => ?_, ?_, isDescription_iff, ofValue_eq_illTyped_iff, ?_, ?_⟩
  · rw [exists_ofValue_iff, exists_objection_iff fun d => ?_]
    by_cases blank : d.Blank <;> by_cases empty : d.source = some "" <;> simp [blank, empty]
  · obtain ⟨known, d, read, finished⟩ := ofValue_eq_ok_iff.1 ok
    have said := (ofValue?_eq_some_iff known).1 read
    have silent := (Draft.finish_eq_ok_iff.1 finished).1
    rw [d.objection?_draft (said.named_iff.1 known)] at silent
    refine ⟨d, said, Description.carries_of_finish (fun blank => ?_) finished⟩
    simp [blank] at silent
  · rw [← ofValue_eq_noDestination_iff (ρ := ρ)]
    constructor
    · rintro ⟨e, refused, reason⟩
      rw [refused, message?_eq_noDestination_iff.1 reason]
    · exact fun refused => ⟨_, refused, rfl⟩
  · rw [ofValue_eq_draft_error_iff, exists_objection_iff fun d => ?_]
    by_cases blank : d.Blank <;> by_cases empty : d.source = some "" <;> simp [blank, empty]
  · rw [ofValue_eq_draft_error_iff, exists_objection_iff fun d => ?_]
    by_cases blank : d.Blank <;> by_cases empty : d.source = some "" <;> simp [blank, empty]

def fullName : Value :=
  .object [("destinationName", .string "full_name"), ("note", .null), ("sourceName", .null),
    ("mode", .object [("derived", .null)]), ("expression", .string " first || last "),
    ("isRequired", .bool true)]

def faultyName : Value :=
  .object [("destinationName", .string "full_name"), ("sourceName", .string ""),
    ("mode", .string "derived"), ("isRequired", .null)]

theorem ofValue_judges_full_name :
    (∃ f : Field Unit, ofValue fullName = .ok f ∧ f.required = true ∧
      ∃ d, Describes fullName d ∧ Carries f d) ∧
    (ofValue faultyName : Except ReadError (Field Unit)) = .error .illTyped := by
  have judged := ofValue_judges_members (ρ := Unit)
  have read : ofValue fullName = .ok (⟨none, .extended "full_name" none, true, false, false,
      .derived " first || last "⟩ : Field Unit) := by rfl
  have null : Mistyped faultyName := .flag "isRequired" (by decide) .null rfl (by decide)
  exact ⟨⟨_, read, rfl, (judged fullName).2.1 _ read⟩,
    (judged faultyName).2.2.2.2.1.2 ⟨rfl, null⟩⟩

end FieldMapping.Field
