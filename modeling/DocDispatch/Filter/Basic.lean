import DocDispatch.Json.Value
import DocDispatch.Text.Pieces

/-!
# Filter/Basic — conditions on a field of a document

A filter compares the stored value of one field with an operand: a number with numbers, by value,
and a text with texts, by code point; any other pair is incomparable and satisfies no operator, `!=`
included.  `array-contains` asks for an equal item.  The three operators that would need a list as
operand have no answer at all (`matches?` is `none`).
-/

namespace DocDispatch

namespace Filter

/-- The comparison a filter makes. -/
inductive Operator where
  | lt
  | le
  | eq
  | ne
  | ge
  | gt
  | arrayContains
  | arrayContainsAny
  | isIn
  | notIn
deriving DecidableEq

namespace Operator

/-- Every operator. -/
def all : List Operator :=
  [.lt, .le, .eq, .ne, .ge, .gt, .arrayContains, .arrayContainsAny, .isIn, .notIn]

/-- The text of an operator. -/
def text : Operator → String
  | .lt => "<"
  | .le => "<="
  | .eq => "=="
  | .ne => "!="
  | .ge => ">="
  | .gt => ">"
  | .arrayContains => "array-contains"
  | .arrayContainsAny => "array-contains-any"
  | .isIn => "in"
  | .notIn => "not-in"

/-- The operator with a text. -/
def ofText? (text : String) : Option Operator := all.find? fun op => op.text == text

theorem mem_all (op : Operator) : op ∈ all := by cases op <;> decide

theorem text_of_ofText? {text : String} {op : Operator} (h : ofText? text = some op) :
    op.text = text := by
  simpa using List.find?_some h

theorem ofText?_text (op : Operator) : ofText? op.text = some op := by
  cases op <;> decide

/-- Whether the order of the stored value against the operand satisfies a comparison; membership
has no order. -/
def accepts? : Operator → Ordering → Option Bool
  | .lt, o => some (o == .lt)
  | .le, o => some (o != .gt)
  | .eq, o => some (o == .eq)
  | .ne, o => some (o != .eq)
  | .ge, o => some (o != .lt)
  | .gt, o => some (o == .gt)
  | _, _ => none

end Operator

/-- What a field is compared with: an integer of 64 signed bits, a binary64 number or a text. -/
inductive Operand where
  | integer (n : Ranged (-0x8000000000000000) 0x8000000000000000)
  | float (x : Binary64)
  | text (s : String)
deriving DecidableEq

namespace Operand

/-- Numbers in an operand's text never have an exponent, and whole ones no fraction. -/
def layout : Binary64.Layout := ⟨none, false, .up⟩

/-- The text of an operand. -/
def display : Operand → String
  | .integer n => String.ofList (Json.Number.integerChars n.val)
  | .float x => String.ofList (x.chars layout)
  | .text s => s

/-- The number an operand is. -/
def toBinary64? : Operand → Option Binary64
  | .integer n => some (Binary64.ofInt n.val)
  | .float x => some x
  | .text _ => none

/-- **The order of a stored value against the operand**, `none` for an incomparable pair. -/
def compare? : Operand → Json.Value → Option Ordering
  | .text s, .string v => some (compare v s)
  | .text _, _ => none
  | operand, .number v => operand.toBinary64?.map fun x => v.toBinary64.order x
  | _, _ => none

end Operand

end Filter

/-- A condition on one field. -/
structure Filter where
  field : String
  operator : Filter.Operator
  operand : Filter.Operand
deriving DecidableEq

namespace Filter

/-- The text of a filter inside a reference. -/
def display (f : Filter) : String :=
  Text.join "," [f.field, f.operator.text, f.operand.display]

/-- **Whether a stored field satisfies the filter**; `none` for an operator that needs a list. -/
def matches? (f : Filter) (stored : Option Json.Value) : Option Bool :=
  match f.operator with
  | .arrayContains =>
    match stored with
    | some (.array items) => some (items.any fun item => f.operand.compare? item == some .eq)
    | _ => some false
  | .arrayContainsAny | .isIn | .notIn => none
  | op => some (((stored >>= f.operand.compare?) >>= op.accepts?).getD false)

end Filter

end DocDispatch
