import FieldMapping.Assoc
import FieldMapping.Number.Basic

/-! Values of the data format. Objects keep their members in written order.
Whoever builds an object sees to it that its keys are distinct; reading a text
and every operation on records does. -/

namespace FieldMapping

inductive Value where
  | null
  | bool (flag : Bool)
  | number (number : Number)
  | string (text : String)
  | array (items : List Value)
  | object (members : List (String × Value))

abbrev Record := Assoc Value

instance : Inhabited Value := ⟨.null⟩

namespace Value

inductive Kind where
  | null | boolean | number | string | array | object
deriving DecidableEq

def Kind.name : Kind → String
  | null => "null"
  | boolean => "boolean"
  | number => "number"
  | string => "string"
  | array => "array"
  | object => "object"

def kind : Value → Kind
  | null => .null
  | bool _ => .boolean
  | number _ => .number
  | string _ => .string
  | array _ => .array
  | object _ => .object

def text? : Value → Option String
  | string s => some s
  | _ => none

def members? : Value → Option Record
  | object ms => some ms
  | _ => none

def member? (v : Value) (key : String) : Option Value :=
  v.members?.bind (Assoc.get? · key)

def ofOption (write : α → Value) : Option α → Value
  | none => null
  | some a => write a

def ofUInt64 (n : UInt64) : Value := number (.ofUInt64 n)

def ofNat (n : Nat) : Value := ofUInt64 (.ofNat n)

mutual

def beq : Value → Value → Bool
  | null, null => true
  | bool a, bool b => a == b
  | number a, number b => a == b
  | string a, string b => a == b
  | array a, array b => beqItems a b
  | object a, object b => beqMembers a b
  | _, _ => false

def beqItems : List Value → List Value → Bool
  | [], [] => true
  | a :: as, b :: bs => beq a b && beqItems as bs
  | _, _ => false

def beqMembers : List (String × Value) → List (String × Value) → Bool
  | [], [] => true
  | (k, a) :: as, (l, b) :: bs => k == l && beq a b && beqMembers as bs
  | _, _ => false

end

mutual

theorem eq_of_beq : ∀ {a b : Value}, beq a b = true → a = b
  | null, b, h => by cases b <;> simp_all [beq]
  | bool a, b, h => by cases b <;> simp_all [beq]
  | number a, b, h => by cases b <;> simp_all [beq]
  | string a, b, h => by cases b <;> simp_all [beq]
  | array a, b, h => by
    cases b with
    | array b => exact congrArg array (eq_of_beqItems (by simpa [beq] using h))
    | _ => simp [beq] at h
  | object a, b, h => by
    cases b with
    | object b => exact congrArg object (eq_of_beqMembers (by simpa [beq] using h))
    | _ => simp [beq] at h

theorem eq_of_beqItems : ∀ {a b : List Value}, beqItems a b = true → a = b
  | [], [], _ => rfl
  | [], _ :: _, h => by simp [beqItems] at h
  | _ :: _, [], h => by simp [beqItems] at h
  | a :: as, b :: bs, h => by
    simp only [beqItems, Bool.and_eq_true] at h
    rw [eq_of_beq h.1, eq_of_beqItems h.2]

theorem eq_of_beqMembers : ∀ {a b : List (String × Value)}, beqMembers a b = true → a = b
  | [], [], _ => rfl
  | [], _ :: _, h => by simp [beqMembers] at h
  | _ :: _, [], h => by simp [beqMembers] at h
  | (k, a) :: as, (l, b) :: bs, h => by
    simp only [beqMembers, Bool.and_eq_true, beq_iff_eq] at h
    rw [h.1.1, eq_of_beq h.1.2, eq_of_beqMembers h.2]

end

mutual

theorem beq_refl : ∀ a : Value, beq a a = true
  | null => rfl
  | bool _ => by simp [beq]
  | number _ => by simp [beq]
  | string _ => by simp [beq]
  | array a => by simpa [beq] using beqItems_refl a
  | object a => by simpa [beq] using beqMembers_refl a

theorem beqItems_refl : ∀ a : List Value, beqItems a a = true
  | [] => rfl
  | a :: as => by simp [beqItems, beq_refl a, beqItems_refl as]

theorem beqMembers_refl : ∀ a : List (String × Value), beqMembers a a = true
  | [] => rfl
  | (_, a) :: as => by simp [beqMembers, beq_refl a, beqMembers_refl as]

end

instance : DecidableEq Value := fun a b =>
  decidable_of_iff (beq a b = true) ⟨eq_of_beq, fun h => h ▸ beq_refl a⟩

mutual

/-- No object in it, however deep, has a key twice. -/
def isProper : Value → Bool
  | array items => areProper items
  | object members => decide (Assoc.Distinct members) && membersProper members
  | _ => true

def areProper : List Value → Bool
  | [] => true
  | v :: vs => isProper v && areProper vs

def membersProper : List (String × Value) → Bool
  | [] => true
  | (_, v) :: ms => isProper v && membersProper ms

end

theorem distinct_of_isProper {members : Record} (proper : (object members).isProper = true) :
    members.Distinct := by
  simp only [isProper, Bool.and_eq_true, decide_eq_true_eq] at proper
  exact proper.1

end Value

end FieldMapping
