import DocDispatch.Binary64.Round

/-!
# Binary64/Literal — decimal literals

The parts of a decimal literal and the number nearest to it.  What a literal may look like differs
from one notation to the next; the runs of digits and the exponent are common to them.
-/

namespace DocDispatch

/-- A decimal literal, split into its parts. -/
structure DecimalLiteral where
  negative : Bool
  whole : List Char
  fraction : List Char
  exponent : Int

namespace Literal

/-- The natural number a list of decimal digits spells. -/
def digitsValue (digits : List Char) : Nat :=
  digits.foldl (fun n c => 10 * n + (c.toNat - '0'.toNat)) 0

/-- The digits at the front, and what follows them. -/
def digits (cs : List Char) : List Char × List Char := cs.span Char.isDigit

/-- The exponent: a letter, a sign or none, and at least one digit; or nothing at all. -/
def exponent? : List Char → Option (Option Int × List Char)
  | c :: cs =>
    if c = 'e' ∨ c = 'E' then
      let (negative, cs) := match cs with
        | '-' :: cs => (true, cs)
        | '+' :: cs => (false, cs)
        | cs => (false, cs)
      match digits cs with
      | ([], _) => none
      | (ds, rest) =>
        let n : Int := digitsValue ds
        some (some (if negative then -n else n), rest)
    else some (none, c :: cs)
  | [] => some (none, [])

end Literal

/-- **The nearest binary64 number to the literal**, `none` if that is not finite. -/
def DecimalLiteral.value? (l : DecimalLiteral) : Option Binary64 :=
  Binary64.ofDecimal? l.negative (Literal.digitsValue (l.whole ++ l.fraction))
    (l.exponent - l.fraction.length)

end DocDispatch
