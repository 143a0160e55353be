import DocDispatch.Binary64.Shortest

/-!
# Binary64/Layout — where the point goes in a number's text

The digits are those of `Binary64/Shortest`; a `Layout` records the rest: between which places of
the point a number is written positionally, whether an integral value keeps a fraction, and which
way a half goes.  Outside the positional range a number is `d.ddde±x`, with the sign of the exponent
always written.
-/

namespace DocDispatch.Binary64

/-- How a number is laid out around its digits. -/
structure Layout where
  /-- The places of the point (`pointOf`) for which no exponent is written, both ends included;
  `none` if that is all of them. -/
  positional : Option (Int × Int)
  /-- Whether an integral number written positionally ends in `.0`. -/
  wholeFraction : Bool
  half : HalfWay

namespace Layout

def isPositional (l : Layout) (point : Int) : Bool :=
  match l.positional with
  | none => true
  | some (low, high) => low ≤ point && point ≤ high

def wholeEnd (l : Layout) : List Char := if l.wholeFraction then ['.', '0'] else []

/-- Digits `ds` with the point before place `point`. -/
def positionalChars (l : Layout) (ds : List Char) (point : Int) : List Char :=
  if point ≤ 0 then '0' :: '.' :: List.replicate (-point).toNat '0' ++ ds
  else if ds.length ≤ point.toNat then
    ds ++ List.replicate (point.toNat - ds.length) '0' ++ l.wholeEnd
  else ds.take point.toNat ++ '.' :: ds.drop point.toNat

/-- Digits `ds` with one before the point and the exponent `e`. -/
def exponentChars (ds : List Char) (e : Int) : List Char :=
  let mantissa := match ds with
    | [] => []
    | [d] => [d]
    | d :: rest => d :: '.' :: rest
  mantissa ++ 'e' :: (if e < 0 then '-' else '+') :: Nat.toDigits 10 e.natAbs

end Layout

/-- **The text of a number in a layout.** -/
def chars (l : Layout) (x : Binary64) : List Char :=
  let sign := if x.negative then ['-'] else []
  if x.isZero then sign ++ '0' :: l.wholeEnd
  else
    let d := x.shortest l.half
    let ds := Nat.toDigits 10 d.coefficient
    let point := d.exponent + ds.length
    sign ++
      if l.isPositional point then l.positionalChars ds point
      else Layout.exponentChars ds (point - 1)

end DocDispatch.Binary64
