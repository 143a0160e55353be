import DocDispatch.Proofs.Filter.Canonical

/-!
# Proofs/Filter/Comparison — integers are compared as integers

    n − 1   n   n + 1        numbers, |n| < 2⁵³
      ╰─────┼─────╯
            m                rounded to some number, on its side of n

A filter for an integer is made of two binary64 numbers and still answers for the integers
themselves: below 2⁵³ the operand is exact, and so are its neighbours, which rounding does not carry
a stored integer across (`integer_filter`).
-/

namespace DocDispatch.Filter

open Binary64

/-- What a comparison says of two integers; membership compares none. -/
def Operator.Holds : Operator → ℤ → ℤ → Prop
  | .lt, m, n => m < n
  | .le, m, n => m ≤ n
  | .eq, m, n => m = n
  | .ne, m, n => m ≠ n
  | .ge, m, n => n ≤ m
  | .gt, m, n => n < m
  | .arrayContains, _, _ | .arrayContainsAny, _, _ | .isIn, _, _ | .notIn, _, _ => False

/-- The operators that compare. -/
def Operator.comparisons : List Operator := [.lt, .le, .eq, .ne, .ge, .gt]

section

variable {op : Operator} (comparison : op ∈ Operator.comparisons)

include comparison

/-- On integers every operator but `in` has an answer, and it is the usual one. -/
theorem exists_accepts? (m n : ℤ) :
    ∃ answer, op.accepts? (compare m n) = some answer ∧ (answer = true ↔ op.Holds m n) := by
  simp only [Operator.comparisons, List.mem_cons, List.not_mem_nil, or_false] at comparison
  rcases comparison with rfl | rfl | rfl | rfl | rfl | rfl <;> refine ⟨_, rfl, ?_⟩
  · simp [Operator.Holds, compare_lt_iff_lt]
  · simp [Operator.Holds, compare_gt_iff_gt]
  · simp [Operator.Holds]
  · simp [Operator.Holds]
  · simp [Operator.Holds, compare_lt_iff_lt]
  · simp [Operator.Holds, compare_gt_iff_gt]

/-- A comparison has an answer, `false` for what it cannot compare. -/
theorem matches?_comparison (field : String) (operand : Operand) (stored : Option Json.Value) :
    (Filter.mk field op operand).matches? stored =
      some (((stored >>= operand.compare?) >>= op.accepts?).getD false) := by
  simp only [Operator.comparisons, List.mem_cons, List.not_mem_nil, or_false] at comparison
  rcases comparison with rfl | rfl | rfl | rfl | rfl | rfl <;> rfl

end

/-- A spelling of an integer is one word. -/
theorem Numeral.isWord {cs : List Char} {q : ℚ} (h : Numeral cs q) : Text.IsWord cs := by
  have letters : ∀ entry ∈ bases, Text.isBlank entry.1 = false := by decide
  rcases h with ⟨written⟩ | ⟨@⟨letter, base, n, ds, announced, digits, -, -⟩⟩
  · exact written.isWord
  · have digit : ∀ c ∈ ds, Text.isBlank c = false := fun c hc => by
      obtain ⟨k, isDigit⟩ := digits.exists_isDigit hc
      have := (isDigit_iff_toNat (le_sixteen announced)).mp isDigit
      have := le_sixteen announced
      exact Text.isBlank_of_visible (by grind) (by grind)
    have letter : Text.isBlank letter = false := letters (letter, base) announced
    have zero : Text.isBlank '0' = false := by decide
    exact ⟨List.cons_ne_nil _ _, by simpa [zero, letter] using digit⟩

/-- **A filter for an exact integer compares integers**, and nothing else. -/
theorem integer_filter {field token : String} {op : Operator} {n : ℤ}
    (isField : Text.IsWord field.toList) (comparison : op ∈ Operator.comparisons)
    (numeral : Numeral token.toList n) (notZero : n ≠ 0) (exact : n.natAbs ≤ 2 ^ 53 - 1) :
    ∃ f : Filter, parse (field ++ " " ++ op.text ++ " " ++ token) = .ok f ∧
      (∃ r, f.operand = .integer r ∧ r.val = n) ∧
      (∀ m, ∃ answer, f.matches? (some (.number (.integer m))) = some answer ∧
        (answer = true ↔ op.Holds m.val n)) ∧
      f.matches? none = some false ∧
      ∀ v : Json.Value, v.kind ≠ .number → f.matches? (some v) = some false := by
  let r : Ranged (-0x8000000000000000) 0x8000000000000000 := ⟨n, by omega, by omega⟩
  have operand : Operand.ofWord token = .integer r :=
    ofWord_of_integer (.numeral numeral) notZero exact
  refine ⟨⟨field, op, .integer r⟩, ?_, ⟨r, rfl, rfl⟩, fun m => ?_, ?_, fun v other => ?_⟩
  · rw [← operand]
    exact parse_words isField op numeral.isWord
  · have size : m.val.natAbs < 2 ^ 64 := by
      have := m.low_le
      have := m.lt_high
      omega
    have order : (ofInt m.val).order (ofInt n) = compare m.val n :=
      order_ofInt (inRange_of_lt_pow size) exact
    obtain ⟨answer, accepted, holds⟩ := exists_accepts? comparison m.val n
    have compared : (Operand.integer r).compare? (.number (.integer m)) =
        some ((ofInt m.val).order (ofInt n)) := rfl
    refine ⟨answer, ?_, holds⟩
    simp only [matches?_comparison comparison, Option.bind_eq_bind, Option.bind_some, compared,
      order, accepted, Option.getD_some]
  · rw [matches?_comparison comparison]
    rfl
  · rw [matches?_comparison comparison]
    cases v with
    | number => exact absurd rfl other
    | _ => rfl

/-- −2⁵³ − 1, which no binary64 number is, against the least operand. -/
theorem integer_filter_least : ∃ f : Filter, parse "balance < -9007199254740.991e3" = .ok f ∧
    f.matches? (some (.number (.integer ⟨-9007199254740993, by decide, by decide⟩))) = some true ∧
    f.matches? none = some false := by
  have digits : Digits 10 ("9007199254740".toList ++ "991".toList) 9007199254740991 :=
    (digitsValue?_eq_some_iff (by decide)).mp (by decide)
  have exponent : Digits 10 ['3'] 3 := (digitsValue?_eq_some_iff (by decide)).mp (by decide)
  have written := Numeral.decimal <|
    .mk .minus (.point digits (by simp)) (.some (.inl rfl) .none exponent (by simp))
  have value : signed true ((9007199254740991 : ℕ) * 10 ^ ((3 : ℕ) - ("991".toList.length : ℤ))) =
      ((-9007199254740991 : ℤ) : ℚ) := by
    simp [signed]
  have numeral : Numeral "-9007199254740.991e3".toList (-9007199254740991 : ℤ) := value ▸ written
  have field : Text.IsWord "balance".toList := by decide
  have comparison : Operator.lt ∈ Operator.comparisons := by decide
  obtain ⟨f, read, -, compared, absent, -⟩ :=
    integer_filter field comparison numeral (by decide) (by decide)
  obtain ⟨answer, answered, holds⟩ := compared ⟨-9007199254740993, by decide, by decide⟩
  have below : Operator.lt.Holds (-9007199254740993) (-9007199254740991) := by
    simp [Operator.Holds]
  rw [holds.mpr below] at answered
  exact ⟨f, read, answered, absent⟩

end DocDispatch.Filter
