import DocDispatch.Proofs.Binary64.Integers
import DocDispatch.Proofs.Filter.Numeral

/-!
# Proofs/Filter/Coercion — which words are numbers

    word  ──Denotes──▸  rational  ──Rounds──▸  number, not zero  ──▸  integer or float
      ╰──────────────────── otherwise ────────────────────────────▸  the word

A word is a number if it is written as one and what it denotes rounds to a finite number other than
zero; every other word stays as it is (`ofWord_number_iff`).
-/

namespace DocDispatch.Filter

open Binary64

/-- **The rational a word denotes**: that of a numeral, where a plus sign behind the letter of a
base is passed over. -/
inductive Denotes (cs : List Char) : ℚ → Prop
  | numeral {q : ℚ} (h : Numeral cs q) : Denotes cs q
  | plus {n : ℕ} (h : BaseNumeral ['+'] cs n) : Denotes cs n

/-- A numeral in another base fits 64 bits. -/
theorem BaseNumeral.lt {sign cs : List Char} {n : ℕ} (h : BaseNumeral sign cs n) : n < 2 ^ 64 := by
  cases h
  assumption

/-- **Integers of 64 bits are in range.** -/
theorem inRange_of_lt_pow {n : ℤ} (small : n.natAbs < 2 ^ 64) :
    |(n : ℚ)| < 2 ^ 1024 - 2 ^ 970 := by
  refine inRange_of_lt ?_
  rw [← Int.cast_abs, Int.abs_eq_natAbs, Int.cast_natCast]
  calc (n.natAbs : ℚ) < 2 ^ 64 := by exact_mod_cast small
    _ ≤ 2 ^ 970 := pow_le_pow_right₀ one_le_two (by norm_num)

section

variable {cs : List Char} {x : Binary64} (some : x.isZero = false)

include some

/-- An integer is coerced to what it rounds to… -/
theorem ofInt_eq_iff {n : ℕ} (small : n < 2 ^ 64) : ofInt n = x ↔ Rounds n x := by
  have rounds : Rounds n (ofInt n) := rounds_ofInt (inRange_of_lt_pow small)
  exact ⟨fun same => same ▸ rounds, fun own => (own.unique rounds some).symm⟩

/-- …and a decimal too, sign and all. -/
theorem ofDecimal?_eq_some_iff_rounds {negative : Bool} {c : ℕ} {e : ℤ} :
    ofDecimal? negative c e = Option.some x ↔ Rounds (signed negative (c * 10 ^ e)) x := by
  rw [ofDecimal?_eq_some_iff]
  exact and_iff_right_of_imp fun rounds => rounds.negative_eq (by positivity) some

/-- **A word is read as the number its rational rounds to.** -/
theorem number?_eq_some_iff_rounds :
    number? cs = Option.some x ↔ ∃ q, Denotes cs q ∧ Rounds q x := by
  rw [number?_eq_some_iff]
  constructor
  · rintro (⟨negative, c, e, written, h⟩ | ⟨sign, n, rfl | rfl, written, h⟩)
    · exact ⟨_, .numeral (.decimal written), (ofDecimal?_eq_some_iff_rounds some).mp h⟩
    · exact ⟨_, .numeral (.base written), (ofInt_eq_iff some written.lt).mp h⟩
    · exact ⟨_, .plus written, (ofInt_eq_iff some written.lt).mp h⟩
  · rintro ⟨_, ⟨⟨written⟩ | written⟩ | written, rounds⟩
    · exact .inl ⟨_, _, _, written, (ofDecimal?_eq_some_iff_rounds some).mpr rounds⟩
    · exact .inr ⟨[], _, .inl rfl, written, (ofInt_eq_iff some written.lt).mpr rounds⟩
    · exact .inr ⟨['+'], _, .inr rfl, written, (ofInt_eq_iff some written.lt).mpr rounds⟩

/-- A number is the same number as an operand. -/
theorem toBinary64?_ofBinary64 : (Operand.ofBinary64 x).toBinary64? = Option.some x := by
  unfold Operand.ofBinary64
  split
  next n whole =>
    split
    next =>
      split
      next r inRange =>
        rw [Operand.toBinary64?, Ranged.val_of_ofInt? inRange,
          ofInt_eq (toInt?_eq_some_iff.mp whole) some]
      next => rfl
    next => rfl
  next => rfl

end

/-- **A word that denotes a number is coerced to what it rounds to**, unless that is a zero. -/
theorem ofWord_of_rounds {word : String} {q : ℚ} {x : Binary64} (written : Denotes word.toList q)
    (rounds : Rounds q x) (some : x.isZero = false) : Operand.ofWord word = .ofBinary64 x := by
  rw [Operand.ofWord, (number?_eq_some_iff_rounds some).mpr ⟨q, written, rounds⟩]
  simp [some]

/-- **A word is a number other than zero, or it stays as it is.** -/
theorem ofWord_cases (word : String) :
    (∃ q x, Denotes word.toList q ∧ Rounds q x ∧ x.isZero = false ∧
      Operand.ofWord word = .ofBinary64 x) ∨ Operand.ofWord word = .text word := by
  unfold Operand.ofWord
  split
  next x read =>
    split
    next => exact .inr rfl
    next some =>
      rw [Bool.not_eq_true] at some
      obtain ⟨q, written, rounds⟩ := (number?_eq_some_iff_rounds some).mp read
      exact .inl ⟨q, x, written, rounds, some, rfl⟩
  next => exact .inr rfl

/-- The rationals that round to a finite number other than zero. -/
theorem exists_rounds_iff {q : ℚ} :
    (∃ x, Rounds q x ∧ x.isZero = false) ↔ 1 / 2 ^ 1075 < |q| ∧ |q| < 2 ^ 1024 - 2 ^ 970 := by
  have zero_iff {x : Binary64} (rounds : Rounds q x) : x.isZero = false ↔ 1 / 2 ^ 1075 < |q| := by
    rw [Bool.eq_false_iff, ne_eq, rounds.isZero_iff, not_le]
  constructor
  · rintro ⟨x, rounds, some⟩
    exact ⟨(zero_iff rounds).mp some, rounds.inRange⟩
  · rintro ⟨large, inRange⟩
    obtain ⟨x, rounds⟩ := exists_rounds inRange
    exact ⟨x, rounds, (zero_iff rounds).mpr large⟩

/-- **Which words are numbers, which numbers they are, and that all other words stay.**  The first
bound is half the least number above zero, the second half way from the largest finite one to the
next. -/
theorem ofWord_number_iff (word : String) :
    (∀ x, (Operand.ofWord word).toBinary64? = some x ↔
      x.isZero = false ∧ ∃ q, Denotes word.toList q ∧ Rounds q x) ∧
    (Operand.ofWord word = .text word ↔
      ¬∃ q, Denotes word.toList q ∧ 1 / 2 ^ 1075 < |q| ∧ |q| < 2 ^ 1024 - 2 ^ 970) := by
  simp only [← exists_rounds_iff]
  constructor
  · intro x
    constructor
    · intro number
      obtain ⟨q, y, written, rounds, some, read⟩ | read := ofWord_cases word
      · rw [read, toBinary64?_ofBinary64 some, Option.some_inj] at number
        exact ⟨number ▸ some, q, written, number ▸ rounds⟩
      · rw [read] at number
        exact absurd number (Option.some_ne_none x).symm
    · rintro ⟨some, q, written, rounds⟩
      rw [ofWord_of_rounds written rounds some, toBinary64?_ofBinary64 some]
  · constructor
    · rintro text ⟨q, written, x, rounds, some⟩
      have number := toBinary64?_ofBinary64 some
      rw [← ofWord_of_rounds written rounds some, text] at number
      exact absurd number (Option.some_ne_none x).symm
    · intro none
      obtain ⟨q, x, written, rounds, some, -⟩ | read := ofWord_cases word
      · exact absurd ⟨q, written, x, rounds, some⟩ none
      · exact read

/-- **A word for an exact integer is that integer**, however it is spelled. -/
theorem ofWord_of_integer {word : String} {n : Ranged (-0x8000000000000000) 0x8000000000000000}
    (written : Denotes word.toList n.val) (some : n.val ≠ 0) (exact : n.val.natAbs ≤ largestExact) :
    Operand.ofWord word = .integer n := by
  obtain ⟨x, value⟩ : ∃ x : Binary64, x.value = n.val :=
    exists_value_eq (exact.trans (by decide))
  have notZero : x.isZero = false := by
    rw [Bool.eq_false_iff, ne_eq, isZero_iff_value, value, Int.cast_eq_zero]
    exact some
  rw [ofWord_of_rounds written (value ▸ rounds_value x) notZero, Operand.ofBinary64,
    toInt?_eq_some_iff.mpr value]
  simp only [exact, if_true, Ranged.ofInt?_val]

/-- A sign behind the letter of a base, which no numeral has, is passed over. -/
theorem plus_passed_over :
    Operand.ofWord "0x+10" = .integer ⟨16, by decide, by decide⟩ ∧
      ¬∃ q, Numeral "0x+10".toList q := by
  have letter : ('x', 16) ∈ bases := by decide
  have digits : Digits 16 ['1', '0'] 16 := (digitsValue?_eq_some_iff le_rfl).mp (by decide)
  constructor
  · have written : BaseNumeral ['+'] "0x+10".toList 16 := .mk letter digits (by simp) (by decide)
    exact ofWord_of_integer (.plus written) (by decide) (by decide)
  · rintro ⟨_, written | written⟩
    · exact written.notMem letter (by decide)
    · obtain ⟨base, ds, announced, spelled, digits, -⟩ := baseNumeral_cons_iff.mp written
      exact digits.head_ne_plus (le_sixteen announced) _ spelled.symm

end DocDispatch.Filter
