/-!
# Binary64/Basic — finite binary64 numbers as whole multiples of 2⁻¹⁰⁷⁴

Every finite binary64 number is a whole number of *units* of 2⁻¹⁰⁷⁴: a mantissa below 2⁵³, shifted
left, with a sign.  Order and integrality are therefore questions about integers, and no rounding
enters them; `Binary64/Round` holds the one place where numbers are rounded.
-/

namespace DocDispatch

/-- A finite binary64 number, `mantissa · 2 ^ shift` units of 2⁻¹⁰⁷⁴ with a sign.  The mantissa is
below 2⁵³, and at least 2⁵² unless nothing is shifted, so a number has one representation, zero
two. -/
structure Binary64 where
  negative : Bool
  mantissa : Nat
  shift : Nat
  mantissa_lt : mantissa < 0x20000000000000
  shift_le : shift ≤ 2045
  canonical : shift = 0 ∨ 0x10000000000000 ≤ mantissa
deriving DecidableEq

namespace Binary64

/-- The units in one. -/
def unitsPerOne : Nat := Nat.pow 2 1074

def zero : Binary64 := ⟨false, 0, 0, by decide, by decide, Or.inl rfl⟩

instance : Inhabited Binary64 := ⟨zero⟩

/-- The absolute value, in units. -/
def magnitude (x : Binary64) : Nat := x.mantissa * Nat.pow 2 x.shift

/-- The value, in units. -/
def units (x : Binary64) : Int := if x.negative then -(x.magnitude : Int) else x.magnitude

def isZero (x : Binary64) : Bool := x.mantissa == 0

/-- Numerical order, in which the two zeros are equal. -/
def order (x y : Binary64) : Ordering := compare x.units y.units

/-- The integer a number without fraction is. -/
def toInt? (x : Binary64) : Option Int :=
  if x.magnitude % unitsPerOne = 0 then
    let n : Int := (x.magnitude / unitsPerOne : Nat)
    some (if x.negative then -n else n)
  else none

end Binary64

end DocDispatch
