import DocDispatch.Filter.Basic
import DocDispatch.Text.Blank

/-!
# Filter/Parser — filter expressions

An expression is three words: field, operator, operand.  The operand is a number if it is written as
one, finite and not zero, and else the word itself; a whole number of at most 2⁵³ − 1 is an integer.
Numbers are decimal, with sign, fraction and exponent, or follow one of the prefixes `0x`, `0o`
and `0b`.
-/

namespace DocDispatch.Filter

/-- Why an expression is not a filter. -/
inductive ParseError where
  | wordCount (expression : String) (found : Nat)
  | unknownOperator (text : String)
deriving DecidableEq

namespace ParseError

def message : ParseError → String
  | .wordCount expression found =>
    s!"expected 'field operator value' in '{expression}', found {found} tokens"
  | .unknownOperator text => s!"unknown filter operator '{text}'"

end ParseError

/-! ## Numeric words -/

/-- The base a prefix announces by the letter after its zero. -/
def base? (c : Char) : Option Nat :=
  if c = 'x' ∨ c = 'X' then some 16
  else if c = 'o' ∨ c = 'O' then some 8
  else if c = 'b' ∨ c = 'B' then some 2
  else none

/-- The value of a digit in a base. -/
def digit? (base : Nat) (c : Char) : Option Nat :=
  let n :=
    if '0' ≤ c ∧ c ≤ '9' then c.toNat - '0'.toNat
    else if 'a' ≤ c ∧ c ≤ 'z' then c.toNat - 'a'.toNat + 10
    else if 'A' ≤ c ∧ c ≤ 'Z' then c.toNat - 'A'.toNat + 10
    else base
  if n < base then some n else none

/-- The natural number a list of digits spells in a base. -/
def digitsValue? (base : Nat) (cs : List Char) : Option Nat :=
  cs.foldlM (fun n c => (digit? base c).map (base * n + ·)) 0

/-- The number after a prefix: at least one digit, behind one plus sign or none, and below 2⁶⁴. -/
def afterPrefix? (base : Nat) (cs : List Char) : Option Binary64 :=
  let digits := match cs with
    | '+' :: cs => cs
    | cs => cs
  if digits = [] then none
  else match digitsValue? base digits with
    | some n => if n < 0x10000000000000000 then some (Binary64.ofInt n) else none
    | none => none

/-- A decimal word: a sign or none, digits with a point or without, at least one digit, and an
exponent or none. -/
def decimal? (cs : List Char) : Option Binary64 := do
  let (negative, cs) := match cs with
    | '-' :: cs => (true, cs)
    | '+' :: cs => (false, cs)
    | cs => (false, cs)
  let (whole, cs) := Literal.digits cs
  let (fraction, cs) := match cs with
    | '.' :: cs => Literal.digits cs
    | cs => ([], cs)
  if whole = [] ∧ fraction = [] then none
  else
    let (exponent, rest) ← Literal.exponent? cs
    if rest = [] then DecimalLiteral.value? ⟨negative, whole, fraction, exponent.getD 0⟩ else none

/-- The finite number a word is written as. -/
def number? : List Char → Option Binary64
  | '0' :: c :: cs =>
    match base? c with
    | some base => afterPrefix? base cs
    | none => decimal? ('0' :: c :: cs)
  | cs => decimal? cs

/-- The largest integer an operand keeps as an integer: 2⁵³ − 1. -/
def largestExact : Nat := 0x1fffffffffffff

/-- A number as an operand: an integer if it is whole and exact. -/
def Operand.ofBinary64 (x : Binary64) : Operand :=
  match x.toInt? with
  | some n =>
    if n.natAbs ≤ largestExact then
      match Ranged.ofInt? n with
      | some n => .integer n
      | none => .float x
    else .float x
  | none => .float x

/-- **The operand a word stands for.** -/
def Operand.ofWord (word : String) : Operand :=
  match number? word.toList with
  | some x => if x.isZero then .text word else .ofBinary64 x
  | none => .text word

/-! ## Expressions -/

/-- **The filter an expression spells.** -/
def parse (expression : String) : Except ParseError Filter :=
  match (Text.words expression.toList).map String.ofList with
  | [field, operator, operand] =>
    match Operator.ofText? operator with
    | some op => .ok ⟨field, op, .ofWord operand⟩
    | none => .error (.unknownOperator operator)
  | words => .error (.wordCount expression words.length)

/-- The filters of a list of expressions, or the first error among them. -/
def parseAll (expressions : List String) : Except ParseError (List Filter) :=
  expressions.mapM parse

end DocDispatch.Filter
