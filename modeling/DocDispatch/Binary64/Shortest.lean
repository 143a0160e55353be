import DocDispatch.Binary64.Round

/-!
# Binary64/Shortest — the fewest decimal digits that read back

Of all decimals that round to a number, its text shows one with the fewest digits, and of those the
nearest.  On the grid of decimals with `count` digits only the two neighbours of the number matter;
`shortest` tries 1, 2, … 17 digits and takes the first grid on which a neighbour reads back.  Which
of two equally near neighbours is taken is a decision of the text at hand (`HalfWay`).
-/

namespace DocDispatch.Binary64

/-- What becomes of a number half way between two decimals that both read back. -/
inductive HalfWay where
  | toEven
  | up
deriving DecidableEq

/-- `coefficient · 10 ^ exponent`. -/
structure Decimal where
  coefficient : Nat
  exponent : Int
deriving DecidableEq

/-- The `p` with `10 ^ (p - 1) ≤ |x| < 10 ^ p`, for a number that is not zero: the place of the
point before the first digit. -/
def pointOf (x : Binary64) : Int :=
  (digitCount (x.magnitude * Nat.pow 10 400 / unitsPerOne) : Int) - 400

/-- `|x| / 10 ^ exponent` as a quotient. -/
def quotientOn (x : Binary64) (exponent : Int) : Nat × Nat :=
  if 0 ≤ exponent then (x.magnitude, unitsPerOne * Nat.pow 10 exponent.toNat)
  else (x.magnitude * Nat.pow 10 (-exponent).toNat, unitsPerOne)

/-- Whether a decimal, with the sign of `x`, rounds to `x`. -/
def readsBack (x : Binary64) (d : Decimal) : Bool :=
  ofDecimal? x.negative d.coefficient d.exponent == some x

/-- The neighbour of `x` on the grid of decimals with `count` digits that reads back, the nearer one
of two. -/
def onGrid? (x : Binary64) (half : HalfWay) (count : Nat) : Option Decimal :=
  let exponent := x.pointOf - count
  let (n, d) := x.quotientOn exponent
  let below : Decimal := ⟨n / d, exponent⟩
  let above : Decimal := ⟨n / d + 1, exponent⟩
  match x.readsBack below, x.readsBack above with
  | true, false => some below
  | false, true => some above
  | false, false => none
  | true, true =>
    let r := n % d
    if 2 * r < d then some below
    else if d < 2 * r then some above
    else match half with
      | .up => some above
      | .toEven => some (if (n / d) % 2 = 0 then below else above)

/-- All digits of `x`, which is a whole number of units of 10⁻¹⁰⁷⁴. -/
def exactDecimal (x : Binary64) : Decimal := ⟨x.magnitude * Nat.pow 5 1074, -1074⟩

/-- Moves zeros at the end of the coefficient, at most `fuel` of them, into the exponent. -/
def Decimal.trim : Nat → Decimal → Decimal
  | 0, d => d
  | fuel + 1, d =>
    if d.coefficient % 10 = 0 then trim fuel ⟨d.coefficient / 10, d.exponent + 1⟩ else d

/-- **The decimal a number is written as.** -/
def shortest (x : Binary64) (half : HalfWay) : Decimal :=
  let d := ((List.range 17).findSome? fun i => x.onGrid? half (i + 1)).getD x.exactDecimal
  d.trim (digitCount d.coefficient - 1)

end DocDispatch.Binary64
