import DocDispatch.Json.Tree

/-!
# Json/Record — objects with fixed fields

A record is written as an object or, shorter, as an array of its fields in order.  In an object
unknown members are skipped, a known field may not be repeated, and a field that may be null may
also be left out.  In an array every field has its place; only fields with a default may be missing,
from the end.
-/

namespace DocDispatch.Json

/-- The known fields found in a tree. -/
structure Record where
  fields : List (String × Tree)
  /-- Whether the fields were given by place. -/
  byPlace : Bool

namespace Record

/-- The members among `names`, if no key is unreadable and none of them is repeated. -/
def known? (names : List String) : List (Option String × Tree) → Option (List (String × Tree))
  | [] => some []
  | (none, _) :: _ => none
  | (some k, t) :: ms => do
    let rest ← known? names ms
    if k ∉ names then some rest
    else if (Assoc.get? rest k).isSome then none
    else some ((k, t) :: rest)

/-- **The record with these field names that a tree spells.** -/
def ofTree? (names : List String) : Tree → Option Record
  | .object members => (known? names members).map fun fields => ⟨fields, false⟩
  | .array items => if items.length ≤ names.length then some ⟨names.zip items, true⟩ else none
  | _ => none

/-- A field that has to be there. -/
def required? (r : Record) (name : String) (item : Tree → Option α) : Option α :=
  Assoc.get? r.fields name >>= item

/-- A field that may be null, and in an object absent. -/
def nullable? (r : Record) (name : String) (item : Tree → Option α) : Option (Option α) :=
  match Assoc.get? r.fields name with
  | some t => t.toOption? item
  | none => if r.byPlace then none else some none

/-- A field with a default. -/
def defaulted? (r : Record) (name : String) (default : α) (item : Tree → Option α) : Option α :=
  match Assoc.get? r.fields name with
  | some t => item t
  | none => some default

end Record

end DocDispatch.Json
