import DocDispatch.Json.Value
import DocDispatch.Text.Pieces

/-!
# FieldPath — fields of fields, by dotted name

`address.city` names the field `city` of the object under `address`.  Reading gives nothing where
something on the way is no object; writing puts an object there.
-/

namespace DocDispatch.FieldPath

open Json

/-- The steps of a dotted name. -/
def steps (name : String) : List String := Text.split '.' name

/-- What stands below a value. -/
def below (v : Value) : List String → Option Value
  | [] => some v
  | k :: ks => (v.get? k).bind (below · ks)

/-- **The value at the end of some steps.** -/
def read (m : Fields) (ks : List String) : Option Value := below (.object m) ks

/-- **Puts a value at the end of some steps**, making objects on the way. -/
def write : List String → Value → Fields → Fields
  | [], _, m => m
  | [k], v, m => m.insert k v
  | k :: k' :: ks, v, m =>
    let child := ((m.get? k).bind Value.asObject?).getD []
    m.insert k (.object (write (k' :: ks) v child))

/-- Writes every member of `changes`, in order, its key being a dotted name. -/
def update (m changes : Fields) : Fields :=
  changes.foldl (fun acc p => write (steps p.1) p.2 acc) m

end DocDispatch.FieldPath
