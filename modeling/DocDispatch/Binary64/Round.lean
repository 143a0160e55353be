import DocDispatch.Binary64.Basic

/-!
# Binary64/Round — the nearest binary64 number to a quotient or a decimal

A quotient is scaled to units, cut to 53 bits and rounded half to even; the result is `none` when it
would exceed the largest finite number.  Decimals and integers are quotients, so they share this one
rounding.
-/

namespace DocDispatch

/-- `n / d` to the nearest integer, a half to the even one. -/
def roundDiv (n d : Nat) : Nat :=
  let q := n / d
  let r := n % d
  if 2 * r < d then q else if d < 2 * r then q + 1 else q + q % 2

namespace Binary64

/-- The number `mantissa · 2 ^ shift` units, where that is a canonical finite number. -/
def ofParts? (negative : Bool) (mantissa shift : Nat) : Option Binary64 :=
  if h : mantissa < 0x20000000000000 ∧ shift ≤ 2045 ∧ (shift = 0 ∨ 0x10000000000000 ≤ mantissa) then
    some ⟨negative, mantissa, shift, h.1, h.2.1, h.2.2⟩
  else none

/-- How far a magnitude is shifted: as little as leaves it below 2⁵³. -/
def shiftOf (magnitude : Nat) : Nat := magnitude.log2 + 1 - 53

/-- **The nearest number to `n / d`**, `none` beyond the largest finite one. -/
def nearest? (negative : Bool) (n d : Nat) : Option Binary64 :=
  let scaled := n * unitsPerOne
  let shift := shiftOf (scaled / d)
  let mantissa := roundDiv scaled (d * Nat.pow 2 shift)
  if mantissa = 0x20000000000000 then ofParts? negative 0x10000000000000 (shift + 1)
  else ofParts? negative mantissa shift

/-- The nearest number to an integer of machine size. -/
def ofInt (n : Int) : Binary64 := (nearest? (n < 0) n.natAbs 1).getD zero

/-! ## Decimals -/

/-- How many decimal digits a number is written with. -/
def digitCount (n : Nat) : Nat := (Nat.toDigits 10 n).length

/-- **The nearest number to `coefficient · 10 ^ exponent`.**  Beyond 10³¹⁰ nothing is finite and
below 10⁻³³⁰ everything rounds to zero, so that no power of a written exponent is computed there. -/
def ofDecimal? (negative : Bool) (coefficient : Nat) (exponent : Int) : Option Binary64 :=
  let size := exponent + digitCount coefficient
  if coefficient = 0 ∨ size < -330 then ofParts? negative 0 0
  else if 310 < size then none
  else if 0 ≤ exponent then nearest? negative (coefficient * Nat.pow 10 exponent.toNat) 1
  else nearest? negative coefficient (Nat.pow 10 (-exponent).toNat)

end Binary64

end DocDispatch
