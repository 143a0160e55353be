import DocDispatch.Filter.Basic
import DocDispatch.Json.Record

/-!
# Filter/Codec — filters as JSON

A filter is the object of its three fields; operators go by their text and operands are plain
numbers and strings.  A number reads as an integer if it is one of 64 signed bits, else as a float.
-/

namespace DocDispatch.Filter

open Json

namespace Operator

def toJson (op : Operator) : Value := .string op.text

/-- The text of an operator, alone or as the one key of an object holding null. -/
def ofTree? : Tree → Option Operator
  | .string s => ofText? s
  | t => match t.toChoice? with
    | some (s, .null) => ofText? s
    | _ => none

end Operator

namespace Operand

def toJson : Operand → Value
  | .integer n => .number (.integer (n.widen (by decide) (by decide)))
  | .float x => .number (.float x)
  | .text s => .string s

def ofTree? : Tree → Option Operand
  | .number (.integer n) =>
    match Ranged.ofInt? n.val with
    | some n => some (.integer n)
    | none => some (.float (Binary64.ofInt n.val))
  | .number (.float x) => some (.float x)
  | .string s => some (.text s)
  | _ => none

end Operand

def toJson (f : Filter) : Value :=
  .ofMembers [("field", .string f.field), ("op", f.operator.toJson), ("value", f.operand.toJson)]

def ofTree? (t : Tree) : Option Filter := do
  let r ← Record.ofTree? ["field", "op", "value"] t
  some {
    field := ← r.required? "field" Tree.toString?
    operator := ← r.required? "op" Operator.ofTree?
    operand := ← r.required? "value" Operand.ofTree?
  }

end DocDispatch.Filter
