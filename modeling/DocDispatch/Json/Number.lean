import DocDispatch.Binary64.Layout
import DocDispatch.Binary64.Scale
import DocDispatch.Ranged

/-!
# Json/Number — the numbers of a JSON value

A number written as an integer that fits 64 bits, unsigned or signed, stays that integer; every
other number is a binary64 number.  The two kinds never meet: `1` and `1.0` are different values.
-/

namespace DocDispatch.Json

/-- A number: an integer from −2⁶³ up to, but not including, 2⁶⁴, or a binary64 number. -/
inductive Number where
  | integer (n : Ranged (-0x8000000000000000) 0x10000000000000000)
  | float (x : Binary64)
deriving DecidableEq

namespace Number

/-- Floats are positional from 0.00001 up to, but not including, 10¹⁶, and always show a fraction
there. -/
def layout : Binary64.Layout := ⟨some (-4, 16), true, .toEven⟩

def integerChars (n : Int) : List Char :=
  (if n < 0 then ['-'] else []) ++ Nat.toDigits 10 n.natAbs

/-- **The text of a number.** -/
def chars : Number → List Char
  | .integer n => integerChars n.val
  | .float x => x.chars layout

/-- The nearest binary64 number. -/
def toBinary64 : Number → Binary64
  | .integer n => Binary64.ofInt n.val
  | .float x => x

/-- What a numeric literal of a JSON text denotes, `none` if it exceeds every finite number.  Only a
literal of whole digits that fits 64 bits is an integer; `-0` is the negative zero, and any other
literal is read in working precision. -/
def ofLiteral? (l : DecimalLiteral) (integral : Bool) : Option Number :=
  let float := l.workingValue?.map Number.float
  if integral then
    let magnitude := Literal.digitsValue l.whole
    if l.negative ∧ magnitude = 0 then float
    else match Ranged.ofInt? (if l.negative then -(magnitude : Int) else magnitude) with
      | some n => some (.integer n)
      | none => float
  else float

end Number

end DocDispatch.Json
