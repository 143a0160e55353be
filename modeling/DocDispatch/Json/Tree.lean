import DocDispatch.Json.Value

/-!
# Json/Tree — what a JSON text spells

A `Tree` is a JSON text before anyone has said what it should mean: members stand in written order,
repeated keys included, and a leaf that spells nothing readable (a number beyond every finite one, a
lone surrogate, a container nested too deep) is kept as `unreadable`.  Readers of a typed value skip
what they do not know, so such a leaf is an error only where it is looked at.  A `Value` is a tree
without repetitions; `Value.toTree` embeds it and `Tree.toValue?` reads it, the last of several
equal keys counting.
-/

namespace DocDispatch.Json

/-- What a JSON text spells. -/
inductive Tree where
  | null
  | bool (b : Bool)
  | number (n : Number)
  | string (s : String)
  | array (items : List Tree)
  | object (members : List (Option String × Tree))
  | unreadable

instance : Inhabited Tree := ⟨.null⟩

mutual

/-- A value as a tree. -/
def Value.toTree : Value → Tree
  | .null => .null
  | .bool b => .bool b
  | .number n => .number n
  | .string s => .string s
  | .array items => .array (Value.itemsToTree items)
  | .object members => .object (Value.membersToTree members)

def Value.itemsToTree : List Value → List Tree
  | [] => []
  | v :: vs => v.toTree :: Value.itemsToTree vs

def Value.membersToTree : List (String × Value) → List (Option String × Tree)
  | [] => []
  | (k, v) :: ms => (some k, v.toTree) :: Value.membersToTree ms

end

namespace Tree

mutual

/-- **The value a tree spells**, if all of it is readable. -/
def toValue? : Tree → Option Value
  | .null => some .null
  | .bool b => some (.bool b)
  | .number n => some (.number n)
  | .string s => some (.string s)
  | .array items => (itemsToValue? items).map .array
  | .object members => (membersToValue? members).map Value.ofMembers
  | .unreadable => none

def itemsToValue? : List Tree → Option (List Value)
  | [] => some []
  | t :: ts => do
    let v ← toValue? t
    let vs ← itemsToValue? ts
    some (v :: vs)

/-- The members, in written order. -/
def membersToValue? : List (Option String × Tree) → Option (List (String × Value))
  | [] => some []
  | (k, t) :: ms => do
    let k ← k
    let v ← toValue? t
    let vs ← membersToValue? ms
    some ((k, v) :: vs)

end

def isReadable (t : Tree) : Bool := t.toValue?.isSome

/-- The members of a readable object. -/
def toFields? : Tree → Option Fields
  | .object members => (membersToValue? members).map Assoc.ofList
  | _ => none

def toString? : Tree → Option String
  | .string s => some s
  | _ => none

def toBool? : Tree → Option Bool
  | .bool b => some b
  | _ => none

/-- An array, item by item. -/
def toList? (item : Tree → Option α) : Tree → Option (List α)
  | .array items => items.mapM item
  | _ => none

/-- An object with any keys, the last of several equal ones counting. -/
def toMap? (item : Tree → Option α) : Tree → Option (OrderedMap α)
  | .object members => do
    let members ← members.mapM fun m => do
      let k ← m.1
      let v ← item m.2
      some (k, v)
    some (OrderedMap.ofList members)
  | _ => none

/-- `null`, or what `item` reads. -/
def toOption? (item : Tree → Option α) : Tree → Option (Option α)
  | .null => some none
  | t => (item t).map some

/-- An object of exactly one member: a choice, named by the key, with its content. -/
def toChoice? : Tree → Option (String × Tree)
  | .object [(some k, t)] => some (k, t)
  | _ => none

end Tree

end DocDispatch.Json
