import DocDispatch.Binary64.Literal

/-!
# Binary64/Scale — decimal literals in working precision

The quick reading of a decimal literal takes the leading digits that fit 64 bits, goes to the
nearest number, and scales that by powers of ten.  Every step rounds on its own, so a literal of few
digits comes out as the nearest number, and one of many digits, or with a large exponent, possibly a
little beside it.
-/

namespace DocDispatch

namespace Binary64

/-- The nearest number to a product. -/
def mul? (x y : Binary64) : Option Binary64 :=
  nearest? (x.negative != y.negative) (x.magnitude * y.magnitude) (unitsPerOne * unitsPerOne)

/-- The nearest number to a quotient by a number that is not zero. -/
def div? (x y : Binary64) : Option Binary64 :=
  nearest? (x.negative != y.negative) x.magnitude y.magnitude

/-- The largest exponent of a finite power of ten. -/
def largestPower : Nat := 308

/-- The nearest number to a power of ten up to the largest. -/
def powerOfTen (n : Nat) : Binary64 := (nearest? false (Nat.pow 10 n) 1).getD zero

/-- Multiplies by a power of ten. -/
def scaleUp? (x : Binary64) (n : Nat) : Option Binary64 :=
  if x.isZero then some x
  else if n ≤ largestPower then x.mul? (powerOfTen n)
  else none

/-- Divides by a power of ten, by the largest one as often as it takes; zero stays zero. -/
def scaleDown? (x : Binary64) (n : Nat) : Option Binary64 :=
  if x.isZero then some x
  else if n ≤ largestPower then x.div? (powerOfTen n)
  else do (← x.div? (powerOfTen largestPower)).scaleDown? (n - largestPower)
termination_by n
decreasing_by
  have : largestPower = 308 := rfl
  omega

end Binary64

namespace Literal

/-- Appends digits to a number as long as it fits 64 bits; with the number, how many were. -/
def appendDigits (n : Nat) : List Char → Nat × Nat
  | [] => (n, 0)
  | c :: cs =>
    let m := 10 * n + (c.toNat - '0'.toNat)
    if m < 0x10000000000000000 then
      let (m, count) := appendDigits m cs
      (m, count + 1)
    else (n, 0)

end Literal

/-- **The literal in working precision**, `none` if it exceeds every finite number on the way. -/
def DecimalLiteral.workingValue? (l : DecimalLiteral) : Option Binary64 := do
  let (n, wholeCount) := Literal.appendDigits 0 l.whole
  let (n, fractionCount) := Literal.appendDigits n l.fraction
  let exponent := l.exponent + (l.whole.length - wholeCount : Nat) - fractionCount
  let x ← Binary64.nearest? l.negative n 1
  if 0 ≤ exponent then x.scaleUp? exponent.toNat else x.scaleDown? (-exponent).toNat

end DocDispatch
