import DocDispatch.Json.Value

/-!
# Json/Truth — which values count as holding

`null`, `false`, the zeros and the empty text do not hold; every other value does, empty containers
included.
-/

namespace DocDispatch.Json

/-- Whether a number is not zero. -/
def Number.isNonzero : Number → Bool
  | .integer n => n.val ≠ 0
  | .float x => !x.isZero

/-- **Whether a value counts as holding.** -/
def Value.isTruthy : Value → Bool
  | .null | .bool false => false
  | .number n => n.isNonzero
  | .string s => s ≠ ""
  | _ => true

end DocDispatch.Json
