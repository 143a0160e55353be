import DocDispatch.Proofs.Filter.Coercion
import DocDispatch.Proofs.Text.Words

/-!
# Proofs/Filter/Canonical — the text of a filter is a filter

    "  age  >=  0x1F "  ──parse──▸  filter  ──text──▸  "age >= 31"
                                      ╰────────◂──parse────╯

An operand shown as text is read again as the same operand (`ofWord_display`): an integer shows its
own digits, a float a decimal that rounds to it, and a word that was no number is still none.  So
the text of a filter is an expression for that filter, whatever expression it came from
(`parse_exact`).
-/

namespace DocDispatch.Filter

open Binary64

/-! ## Digits and zeros -/

theorem digitsValue_eq (cs : List Char) : Literal.digitsValue cs = Nat.ofDigitChars 10 cs 0 :=
  Nat.ofDigitChars_eq_foldl.symm

/-- The digits of a number spell it… -/
theorem digits_toDigits (n : ℕ) : Digits 10 (Nat.toDigits 10 n) n := by
  refine digits_ten_iff.mpr ⟨fun c hc => Nat.isDigit_of_mem_toDigits (by decide) (by decide) hc, ?_⟩
  rw [digitsValue_eq, Nat.ofDigitChars_ten_toDigits]

theorem digits_replicate_zero (k : ℕ) : ∀ c ∈ List.replicate k '0', c.isDigit = true := by
  intro c hc
  rw [List.eq_of_mem_replicate hc]
  rfl

section

variable {ds : List Char} {c : ℕ} (spelled : Digits 10 ds c)

include spelled

/-- Zeros in front change nothing. -/
theorem Digits.zeros_append (k : ℕ) : Digits 10 (List.replicate k '0' ++ ds) c := by
  obtain ⟨digits, rfl⟩ := digits_ten_iff.mp spelled
  refine digits_ten_iff.mpr ⟨List.forall_mem_append.mpr ⟨digits_replicate_zero k, digits⟩, ?_⟩
  rw [digitsValue_eq, digitsValue_eq, Nat.ofDigitChars_append, Nat.ofDigitChars_replicate_zero,
    Nat.mul_zero]

/-- …and zeros behind them multiply by ten. -/
theorem Digits.append_zeros (k : ℕ) : Digits 10 (ds ++ List.replicate k '0') (10 ^ k * c) := by
  obtain ⟨digits, rfl⟩ := digits_ten_iff.mp spelled
  refine digits_ten_iff.mpr ⟨List.forall_mem_append.mpr ⟨digits, digits_replicate_zero k⟩, ?_⟩
  rw [digitsValue_eq, digitsValue_eq, Nat.ofDigitChars_append, Nat.ofDigitChars_replicate_zero]

/-- **Digits with the point before some place** are a mantissa of the same value. -/
theorem exists_mantissa (ne_nil : ds ≠ []) (point : ℤ) : ∃ n places,
    Mantissa (Operand.layout.positionalChars ds point) n places ∧
      (n : ℚ) * 10 ^ (0 - (places : ℤ)) = c * 10 ^ (point - ds.length) := by
  unfold Layout.positionalChars
  split_ifs with front behind
  · -- the zero before the point, then zeros up to the digits
    have fraction := (spelled.zeros_append (-point).toNat).zeros_append 1
    have mantissa : Mantissa (['0'] ++ '.' :: (List.replicate (-point).toNat '0' ++ ds)) c _ :=
      .point fraction (by simp)
    refine ⟨c, _, mantissa, ?_⟩
    rw [List.length_append, List.length_replicate]
    congr 2
    omega
  · have whole := spelled.append_zeros (point.toNat - ds.length)
    have mantissa := Mantissa.whole whole (by simp [ne_nil])
    refine ⟨_, 0, by simpa [Operand.layout, Layout.wholeEnd] using mantissa, ?_⟩
    obtain ⟨k, hk⟩ := Nat.exists_eq_add_of_le behind
    have exponent : point - ds.length = k := by omega
    rw [exponent, hk, Nat.add_sub_cancel_left]
    push_cast
    rw [zpow_natCast]
    ring
  · have whole : ds.take point.toNat ++ ds.drop point.toNat = ds := List.take_append_drop _ _
    refine ⟨c, _, Mantissa.point (whole.symm ▸ spelled) (whole.symm ▸ ne_nil), ?_⟩
    rw [List.length_drop]
    congr 2
    omega

end

/-! ## Operands as text -/

/-- **An integer is displayed as the numeral of itself**, with its sign. -/
theorem decimalNumeral_integerChars (n : ℤ) :
    DecimalNumeral (Json.Number.integerChars n) (decide (n < 0)) n.natAbs 0 := by
  have whole : Mantissa (Nat.toDigits 10 n.natAbs) n.natAbs 0 :=
    .whole (digits_toDigits n.natAbs) Nat.toDigits_ne_nil
  have sign : Sign (if n < 0 then ['-'] else []) (decide (n < 0)) := by
    split_ifs with negative
    · simpa [negative] using Sign.minus
    · simpa [negative] using Sign.none
  simpa [Json.Number.integerChars] using DecimalNumeral.mk sign whole .none

/-- …and any other number as one that rounds to it. -/
theorem exists_decimalNumeral_chars {x : Binary64} (some : x.isZero = false) : ∃ c e,
    DecimalNumeral (x.chars Operand.layout) x.negative c e ∧
      Rounds (signed x.negative (c * 10 ^ e)) x := by
  have rounds := rounds_shortest x .up
  have half : Operand.layout.half = .up := rfl
  have positional (point : ℤ) : Operand.layout.isPositional point = true := rfl
  rw [Binary64.chars, half]
  generalize x.shortest .up = d at rounds
  obtain ⟨n, places, mantissa, value⟩ := exists_mantissa (digits_toDigits d.coefficient)
    Nat.toDigits_ne_nil (d.exponent + (Nat.toDigits 10 d.coefficient).length)
  have sign : Sign (if x.negative then ['-'] else []) x.negative := by
    cases x.negative
    · exact .none
    · exact .minus
  refine ⟨n, 0 - places, ?_, ?_⟩
  · simpa [some, positional] using DecimalNumeral.mk sign mantissa .none
  · rw [value, add_sub_cancel_right]
    exact rounds

/-- **A number shown as text is a decimal that rounds to it.** -/
theorem exists_display {x : Binary64} (some : x.isZero = false) : ∃ negative c e,
    DecimalNumeral (Operand.ofBinary64 x).display.toList negative c e ∧
      Rounds (signed negative (c * 10 ^ e)) x := by
  have float : ∃ negative c e, DecimalNumeral (Operand.float x).display.toList negative c e ∧
      Rounds (signed negative (c * 10 ^ e)) x := by
    obtain ⟨c, e, numeral, rounds⟩ := exists_decimalNumeral_chars some
    rw [Operand.display, String.toList_ofList]
    exact ⟨x.negative, c, e, numeral, rounds⟩
  unfold Operand.ofBinary64
  split
  next n whole =>
    split
    next =>
      split
      next r inRange =>
        refine ⟨decide (n < 0), n.natAbs, 0, ?_, ?_⟩
        · rw [Operand.display, String.toList_ofList, Ranged.val_of_ofInt? inRange]
          exact decimalNumeral_integerChars n
        · rw [zpow_zero, mul_one, signed_natAbs, ← toInt?_eq_some_iff.mp whole]
          exact rounds_value x
      next => exact float
    next => exact float
  next => exact float

/-- **A displayed number is coerced to itself.** -/
theorem ofWord_display_ofBinary64 {x : Binary64} (some : x.isZero = false) :
    Operand.ofWord (Operand.ofBinary64 x).display = .ofBinary64 x := by
  obtain ⟨negative, c, e, numeral, rounds⟩ := exists_display some
  exact ofWord_of_rounds (.numeral (.decimal numeral)) rounds some

/-- **An operand shown as text is read as that operand.** -/
theorem ofWord_display (word : String) :
    Operand.ofWord (Operand.ofWord word).display = .ofWord word := by
  obtain ⟨q, x, written, rounds, some, read⟩ | read := ofWord_cases word
  · rw [read, ofWord_display_ofBinary64 some]
  · rw [read, Operand.display, read]

/-- A numeral is one word… -/
theorem DecimalNumeral.isWord {cs : List Char} {negative : Bool} {c : ℕ} {e : ℤ}
    (h : DecimalNumeral cs negative c e) : Text.IsWord cs := by
  constructor
  · cases h with
    | mk _ mantissa _ => cases mantissa <;> simp_all
  · intro d hd
    rcases h.mem d hd with digit | other
    · rw [Char.isDigit_iff_toNat] at digit
      simp only [Char.reduceToNat] at digit
      exact Text.isBlank_of_visible (by omega) (by omega)
    · have others : Text.IsWord ['-', '+', '.', 'e', 'E'] := by decide
      exact others.isBlank d other

/-- …and so is every displayed operand that came from a word. -/
theorem isWord_display {word : String} (isWord : Text.IsWord word.toList) :
    Text.IsWord (Operand.ofWord word).display.toList := by
  obtain ⟨q, x, written, rounds, some, read⟩ | read := ofWord_cases word
  · rw [read]
    obtain ⟨negative, c, e, numeral, -⟩ := exists_display some
    exact numeral.isWord
  · rw [read]
    exact isWord

/-! ## Expressions -/

theorem map_ofList_eq_iff {ws : List (List Char)} {texts : List String} :
    ws.map String.ofList = texts ↔ ws = texts.map String.toList := by
  constructor
  · rintro rfl
    simp [Function.comp_def]
  · rintro rfl
    simp [Function.comp_def]

/-- An operator is unknown where it has the text of none. -/
theorem Operator.ofText?_eq_none_iff {text : String} :
    ofText? text = none ↔ ∀ op : Operator, op.text.toList ≠ text.toList := by
  simp [ofText?, mem_all, String.toList_inj]

/-- **An expression is a filter where it is three words**, the second one an operator's, between any
blanks. -/
theorem parse_eq_ok_iff {e : String} {f : Filter} : parse e = .ok f ↔ ∃ word : String,
    Text.Spaced e.toList [f.field.toList, f.operator.text.toList, word.toList] ∧
      f.operand = .ofWord word := by
  simp only [← Text.words_eq_iff]
  constructor
  · intro h
    unfold parse at h
    split at h
    next field operator word words =>
      split at h
      next op found =>
        cases h
        refine ⟨word, ?_, rfl⟩
        rw [map_ofList_eq_iff.mp words, ← Operator.text_of_ofText? found]
        rfl
      next => cases h
    next => cases h
  · rintro ⟨word, words, same⟩
    have texts : (Text.words e.toList).map String.ofList = [f.field, f.operator.text, word] :=
      map_ofList_eq_iff.mpr words
    rw [parse, texts]
    simp only [Operator.ofText?_text, ← same]

/-- The text of an operator is one word. -/
theorem isWord_text (op : Operator) : Text.IsWord op.text.toList := by
  cases op <;> decide

/-- **Three words with spaces between them** parse, the last one as the operand it stands for. -/
theorem parse_words {field word : String} (isField : Text.IsWord field.toList) (op : Operator)
    (isWord : Text.IsWord word.toList) :
    parse (field ++ " " ++ op.text ++ " " ++ word) = .ok ⟨field, op, .ofWord word⟩ := by
  have text : (field ++ " " ++ op.text ++ " " ++ word).toList =
      [' '].intercalate [field.toList, op.text.toList, word.toList] := by
    simp [List.intercalate]
  refine parse_eq_ok_iff.mpr ⟨word, ?_, rfl⟩
  rw [text]
  refine Text.spaced_intercalate ?_
  simp [isField, isWord_text op, isWord]

/-- An expression with the wrong number of words is rejected for that, whatever the words. -/
theorem parse_eq_error_iff {e : String} {error : ParseError} : parse e = .error error ↔
    ∃ ws, Text.Spaced e.toList ws ∧
      ((ws.length ≠ 3 ∧ error = .wordCount e ws.length) ∨
        ∃ field operator word, ws = [field, operator, word] ∧
          (∀ op : Operator, op.text.toList ≠ operator) ∧
          error = .unknownOperator (String.ofList operator)) := by
  simp only [← Text.words_eq_iff, exists_eq_left']
  unfold parse
  split
  next field operator word words =>
    rw [map_ofList_eq_iff.mp words]
    split
    next op found =>
      have known : ∃ op : Operator, op.text.toList = operator.toList :=
        ⟨op, congrArg String.toList (Operator.text_of_ofText? found)⟩
      simp [known]
    next unknown =>
      have unknown := Operator.ofText?_eq_none_iff.mp unknown
      simpa [unknown] using eq_comm
  next other =>
    have notThree : (Text.words e.toList).length ≠ 3 := fun three => by
      obtain ⟨field, operator, word, words⟩ := List.length_eq_three.mp three
      exact other _ _ _ (congrArg (List.map String.ofList) words)
    have noThree (field operator word : List Char) :
        Text.words e.toList ≠ [field, operator, word] :=
      fun words => notThree (congrArg List.length words)
    simpa [notThree, noThree] using eq_comm

/-- **What parses, and that a filter's own text parses to it.** -/
theorem parse_exact (e : String) :
    (∀ f, parse e = .ok f ↔ ∃ word : String,
      Text.Spaced e.toList [f.field.toList, f.operator.text.toList, word.toList] ∧
        f.operand = .ofWord word) ∧
    (∀ error, parse e = .error error ↔ ∃ ws, Text.Spaced e.toList ws ∧
      ((ws.length ≠ 3 ∧ error = .wordCount e ws.length) ∨
        ∃ field operator word, ws = [field, operator, word] ∧
          (∀ op : Operator, op.text.toList ≠ operator) ∧
          error = .unknownOperator (String.ofList operator))) ∧
    (∀ f, parse e = .ok f →
      parse (f.field ++ " " ++ f.operator.text ++ " " ++ f.operand.display) = .ok f) := by
  refine ⟨fun f => parse_eq_ok_iff, fun error => parse_eq_error_iff, fun f h => ?_⟩
  obtain ⟨word, spaced, operand⟩ := parse_eq_ok_iff.mp h
  obtain ⟨isField, -, isWord, -⟩ : Text.IsWord f.field.toList ∧ Text.IsWord f.operator.text.toList ∧
      Text.IsWord word.toList ∧ ∀ w ∈ [], Text.IsWord w := by
    simpa only [List.forall_mem_cons] using spaced.isWord
  have read := parse_words isField f.operator (isWord_display isWord)
  rw [ofWord_display, ← operand] at read
  exact read

theorem parse_exact_hexadecimal :
    let f : Filter := ⟨"age", .ge, .integer ⟨31, by decide, by decide⟩⟩
    parse "  age  >= 0x1F " = .ok f ∧ parse "age >= 31" = .ok f := by
  intro f
  have letter : ('x', 16) ∈ bases := by decide
  have digits : Digits 16 ['1', 'F'] 31 := (digitsValue?_eq_some_iff le_rfl).mp (by decide)
  have numeral : BaseNumeral [] "0x1F".toList 31 := .mk letter digits (by simp) (by decide)
  have words : Text.words "  age  >= 0x1F ".toList =
      [f.field.toList, f.operator.text.toList, "0x1F".toList] := by decide
  have operand : f.operand = .ofWord "0x1F" :=
    (ofWord_of_integer (.numeral (.base numeral)) (by decide) (by decide)).symm
  have read := parse_eq_ok_iff.mpr ⟨"0x1F", Text.words_eq_iff.mp words, operand⟩
  have text : f.field ++ " " ++ f.operator.text ++ " " ++ f.operand.display = "age >= 31" := by
    decide
  exact ⟨read, text ▸ (parse_exact "  age  >= 0x1F ").2.2 f read⟩

end DocDispatch.Filter
