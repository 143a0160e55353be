import DocDispatch.Json.Value
import DocDispatch.Text.Pieces

/-!
# Json/Pointer — the place in a value that a pointer names

A pointer is empty, for the whole value, or a `/` before every step.  A step is a key of an object
or, in plain decimal, an index of an array; `~1` stands for `/` and `~0` for `~`.
-/

namespace DocDispatch.Json

namespace Pointer

/-- A step without its escapes. -/
def unescape : List Char → List Char
  | '~' :: '1' :: cs => '/' :: unescape cs
  | '~' :: '0' :: cs => '~' :: unescape cs
  | c :: cs => c :: unescape cs
  | [] => []

/-- An index: digits, without a zero in front of others. -/
def index? (cs : List Char) : Option Nat :=
  if cs = [] ∨ !cs.all Char.isDigit ∨ (cs.head? = some '0' ∧ 1 < cs.length) then none
  else some (Literal.digitsValue cs)

def step (v : Value) (cs : List Char) : Option Value :=
  match v with
  | .object members => Assoc.get? members (String.ofList cs)
  | .array items => index? cs >>= fun i => items[i]?
  | _ => none

end Pointer

/-- **What a pointer names in a value.** -/
def Value.pointer? (v : Value) (pointer : String) : Option Value :=
  match pointer.toList with
  | [] => some v
  | '/' :: cs =>
    (Text.pieces (· == '/') cs).foldlM (fun v cs => Pointer.step v (Pointer.unescape cs)) v
  | _ => none

end DocDispatch.Json
