import DocDispatch.Assoc
import DocDispatch.Json.Number

/-!
# Json/Value — JSON values

Objects hold their members in ascending key order without repetition; every operation of `Assoc`
keeps them so, and `Value.Ordered` says it of a whole value.
-/

namespace DocDispatch.Json

/-- A JSON value. -/
inductive Value where
  | null
  | bool (b : Bool)
  | number (n : Number)
  | string (s : String)
  | array (items : List Value)
  | object (members : List (String × Value))

instance : Inhabited Value := ⟨.null⟩

end DocDispatch.Json

namespace DocDispatch

/-- The members of a JSON object: the data of a document, an entity, an action. -/
abbrev Fields := Assoc Json.Value

end DocDispatch

namespace DocDispatch.Json

/-- The kinds of values, as messages name them. -/
inductive Kind where
  | null
  | boolean
  | number
  | string
  | array
  | object
deriving DecidableEq

def Kind.text : Kind → String
  | .null => "null"
  | .boolean => "boolean"
  | .number => "number"
  | .string => "string"
  | .array => "array"
  | .object => "object"

namespace Value

/-- The kind of a value. -/
def kind : Value → Kind
  | .null => .null
  | .bool _ => .boolean
  | .number _ => .number
  | .string _ => .string
  | .array _ => .array
  | .object _ => .object

def isNull : Value → Bool
  | .null => true
  | _ => false

def asString? : Value → Option String
  | .string s => some s
  | _ => none

def asBool? : Value → Option Bool
  | .bool b => some b
  | _ => none

def asObject? : Value → Option Fields
  | .object members => some members
  | _ => none

/-- The value under a key of an object; nothing else has keys. -/
def get? : Value → String → Option Value
  | .object members, k => Assoc.get? members k
  | _, _ => none

/-- An integer, for numbers that are known to fit. -/
def ofNat (n : Nat) : Value :=
  match Ranged.ofInt? n with
  | some n => .number (.integer n)
  | none => .number (.float (Binary64.ofInt n))

/-- An object from members in any order. -/
def ofMembers (members : List (String × Value)) : Value := .object (Assoc.ofList members)

def ofOption (f : α → Value) : Option α → Value
  | none => .null
  | some a => f a

/-! ## Order of members -/

mutual

/-- Every object in the value has its members in ascending key order. -/
def Ordered : Value → Prop
  | .array items => OrderedItems items
  | .object members => Assoc.Ascending members ∧ OrderedMembers members
  | _ => True

def OrderedItems : List Value → Prop
  | [] => True
  | v :: vs => Ordered v ∧ OrderedItems vs

def OrderedMembers : List (String × Value) → Prop
  | [] => True
  | (_, v) :: ms => Ordered v ∧ OrderedMembers ms

end

/-! ## Decidable equality -/

mutual

/-- Whether two values are the same, member by member. -/
def beq : Value → Value → Bool
  | .null, .null => true
  | .bool a, .bool b => a == b
  | .number a, .number b => a == b
  | .string a, .string b => a == b
  | .array as, .array bs => beqItems as bs
  | .object as, .object bs => beqMembers as bs
  | _, _ => false

def beqItems : List Value → List Value → Bool
  | [], [] => true
  | a :: as, b :: bs => beq a b && beqItems as bs
  | _, _ => false

def beqMembers : List (String × Value) → List (String × Value) → Bool
  | [], [] => true
  | (j, a) :: as, (k, b) :: bs => j == k && beq a b && beqMembers as bs
  | _, _ => false

end

mutual

theorem eq_of_beq : ∀ {a b : Value}, beq a b = true → a = b
  | .null, b, h => by cases b <;> simp_all [beq]
  | .bool _, b, h => by cases b <;> simp_all [beq]
  | .number _, b, h => by cases b <;> simp_all [beq]
  | .string _, b, h => by cases b <;> simp_all [beq]
  | .array as, b, h => by
      cases b with
      | array bs =>
        have h : beqItems as bs = true := by simpa [beq] using h
        rw [eq_of_beqItems h]
      | _ => simp [beq] at h
  | .object as, b, h => by
      cases b with
      | object bs =>
        have h : beqMembers as bs = true := by simpa [beq] using h
        rw [eq_of_beqMembers h]
      | _ => simp [beq] at h

theorem eq_of_beqItems : ∀ {as bs : List Value}, beqItems as bs = true → as = bs
  | [], bs, h => by cases bs <;> simp_all [beqItems]
  | a :: as, bs, h => by
      cases bs with
      | nil => simp [beqItems] at h
      | cons b bs =>
        obtain ⟨h₁, h₂⟩ : beq a b = true ∧ beqItems as bs = true := by simpa [beqItems] using h
        rw [eq_of_beq h₁, eq_of_beqItems h₂]

theorem eq_of_beqMembers :
    ∀ {as bs : List (String × Value)}, beqMembers as bs = true → as = bs
  | [], bs, h => by cases bs <;> simp_all [beqMembers]
  | (j, a) :: as, bs, h => by
      cases bs with
      | nil => simp [beqMembers] at h
      | cons p bs =>
        obtain ⟨k, b⟩ := p
        obtain ⟨⟨h₁, h₂⟩, h₃⟩ : (j = k ∧ beq a b = true) ∧ beqMembers as bs = true := by
          simpa [beqMembers] using h
        rw [h₁, eq_of_beq h₂, eq_of_beqMembers h₃]

end

mutual

theorem beq_self : ∀ a : Value, beq a a = true
  | .null | .bool _ | .number _ | .string _ => by simp [beq]
  | .array as => by simpa [beq] using beqItems_self as
  | .object as => by simpa [beq] using beqMembers_self as

theorem beqItems_self : ∀ as : List Value, beqItems as as = true
  | [] => rfl
  | a :: as => by simp [beqItems, beq_self a, beqItems_self as]

theorem beqMembers_self : ∀ as : List (String × Value), beqMembers as as = true
  | [] => rfl
  | (_, a) :: as => by simp [beqMembers, beq_self a, beqMembers_self as]

end

instance : DecidableEq Value := fun a b =>
  if h : beq a b = true then .isTrue (eq_of_beq h)
  else .isFalse fun e => h (e ▸ beq_self a)

end Value

end DocDispatch.Json
