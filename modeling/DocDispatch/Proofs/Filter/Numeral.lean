import Mathlib.Data.List.TakeWhile
import DocDispatch.Filter.Parser
import DocDispatch.Proofs.Binary64.Decimal

/-!
# Proofs/Filter/Numeral — how numbers are written

    −  12 . 50  e +3          0 x 1F
    ╰sign       ╰exponent       ╰letter of the base

A decimal numeral has a sign or none, digits with a point or without, and an exponent or none;
behind the letter of a base there are digits alone.  A numeral denotes a rational (`Numeral`),
whatever that is rounded to.  The words that are read as numbers are the numerals, and those of a
base also with a plus sign before their digits (`number?_eq_some_iff`).
-/

namespace DocDispatch.Filter

open Binary64

/-! ## Digits -/

/-- **The digit for `k` in a base, as a small letter or a capital one.** -/
structure IsDigit (base k : ℕ) (c : Char) : Prop where
  lt : k < base
  eq : c = Nat.digitChar k ∨ c = (Nat.digitChar k).toUpper

/-- **Digits and the natural number they spell, ones last.** -/
inductive Digits (base : ℕ) : List Char → ℕ → Prop
  | nil : Digits base [] 0
  | concat {cs : List Char} {n k : ℕ} {c : Char} (before : Digits base cs n)
      (last : IsDigit base k c) : Digits base (cs ++ [c]) (base * n + k)

/-- Digits follow one another from `0`, `a` and `A`. -/
theorem toNat_digitChar : ∀ k < 16, (Nat.digitChar k).toNat = (if k < 10 then 48 else 87) + k ∧
    (Nat.digitChar k).toUpper.toNat = (if k < 10 then 48 else 55) + k := by
  decide

section

variable {base n k : ℕ} {c : Char} {cs : List Char}

theorem isDigit_iff_toNat (sixteen : base ≤ 16) :
    IsDigit base k c ↔ k < base ∧ (c.toNat = (if k < 10 then 48 else 87) + k ∨
      c.toNat = (if k < 10 then 48 else 55) + k) := by
  have codes (lt : k < base) : (c = Nat.digitChar k ∨ c = (Nat.digitChar k).toUpper) ↔
      (c.toNat = (if k < 10 then 48 else 87) + k ∨ c.toNat = (if k < 10 then 48 else 55) + k) := by
    obtain ⟨small, capital⟩ := toNat_digitChar k (by omega)
    rw [← small, ← capital, Char.toNat_inj, Char.toNat_inj]
  exact ⟨fun ⟨lt, eq⟩ => ⟨lt, (codes lt).mp eq⟩, fun ⟨lt, eq⟩ => ⟨lt, (codes lt).mpr eq⟩⟩

/-- **A digit is read where it is one of its base**, in either case. -/
theorem digit?_eq_some_iff (sixteen : base ≤ 16) : digit? base c = some k ↔ IsDigit base k c := by
  have le_iff (a b : Char) : a ≤ b ↔ a.toNat ≤ b.toNat := Iff.rfl
  rw [isDigit_iff_toNat sixteen, digit?]
  simp only [le_iff, Char.reduceToNat]
  grind

/-- No digits are a zero… -/
theorem digits_nil_iff : Digits base [] n ↔ n = 0 := by
  refine ⟨fun h => ?_, fun h => h ▸ .nil⟩
  generalize nothing : [] = ds at h
  cases h with
  | nil => rfl
  | concat => simp at nothing

/-- …and one more multiplies by the base. -/
theorem digits_concat_iff : Digits base (cs ++ [c]) n ↔
    ∃ m k, Digits base cs m ∧ IsDigit base k c ∧ n = base * m + k := by
  constructor
  · intro h
    generalize whole : cs ++ [c] = ds at h
    cases h with
    | nil => simp at whole
    | concat before last =>
      obtain ⟨rfl, same⟩ := List.append_inj' whole rfl
      obtain rfl := List.singleton_inj.mp same
      exact ⟨_, _, before, last, rfl⟩
  · rintro ⟨m, k, before, last, rfl⟩
    exact before.concat last

/-- **Digits are read as the number they spell.** -/
theorem digitsValue?_eq_some_iff (sixteen : base ≤ 16) :
    digitsValue? base cs = some n ↔ Digits base cs n := by
  induction cs using List.reverseRecOn generalizing n with
  | nil => simp [digitsValue?, digits_nil_iff, eq_comm]
  | append_singleton cs c ih =>
    have last : digitsValue? base (cs ++ [c]) =
        (digitsValue? base cs).bind fun m => (digit? base c).map (base * m + ·) := by
      simp [digitsValue?, List.foldlM_append]
    simp only [last, digits_concat_iff, Option.bind_eq_some_iff, Option.map_eq_some_iff, ih,
      digit?_eq_some_iff sixteen]
    grind

/-- Of base ten are the decimal digits and nothing else. -/
theorem isDigit_ten_iff : IsDigit 10 k c ↔ c.isDigit = true ∧ c.toNat - '0'.toNat = k := by
  rw [isDigit_iff_toNat (by decide), Char.isDigit_iff_toNat]
  simp only [Char.reduceToNat]
  grind

/-- **Decimal digits spell what they add up to.** -/
theorem digits_ten_iff :
    Digits 10 cs n ↔ (∀ c ∈ cs, c.isDigit = true) ∧ Literal.digitsValue cs = n := by
  induction cs using List.reverseRecOn generalizing n with
  | nil => grind [Literal.digitsValue, digits_nil_iff]
  | append_singleton cs c ih =>
    have last : Literal.digitsValue (cs ++ [c]) =
        10 * Literal.digitsValue cs + (c.toNat - '0'.toNat) := by
      simp [Literal.digitsValue]
    simp only [last, digits_concat_iff, ih, isDigit_ten_iff, List.mem_append, List.mem_singleton]
    grind

end

/-! ## Numerals -/

/-- A sign or none; negative for a minus. -/
inductive Sign : List Char → Bool → Prop
  | none : Sign [] false
  | plus : Sign ['+'] false
  | minus : Sign ['-'] true

/-- An exponent behind its letter, or none. -/
inductive Exponent : List Char → ℤ → Prop
  | none : Exponent [] 0
  | some {letter : Char} {sign ds : List Char} {negative : Bool} {n : ℕ}
      (isLetter : letter = 'e' ∨ letter = 'E') (isSign : Sign sign negative)
      (digits : Digits 10 ds n) (ne_nil : ds ≠ []) :
      Exponent (letter :: (sign ++ ds)) (if negative then -n else n)

/-- **Digits with a point or without, the natural number they spell without it and the number of
places behind it.** There is a digit at least, on either side. -/
inductive Mantissa : List Char → ℕ → ℕ → Prop
  | whole {ds : List Char} {n : ℕ} (digits : Digits 10 ds n) (ne_nil : ds ≠ []) : Mantissa ds n 0
  | point {whole fraction : List Char} {n : ℕ} (digits : Digits 10 (whole ++ fraction) n)
      (ne_nil : whole ++ fraction ≠ []) : Mantissa (whole ++ '.' :: fraction) n fraction.length

/-- **A decimal numeral**: its sign, and `c · 10 ^ e`. -/
inductive DecimalNumeral : List Char → Bool → ℕ → ℤ → Prop
  | mk {sign mantissa exponent : List Char} {negative : Bool} {c places : ℕ} {e : ℤ}
      (isSign : Sign sign negative) (isMantissa : Mantissa mantissa c places)
      (isExponent : Exponent exponent e) :
      DecimalNumeral (sign ++ (mantissa ++ exponent)) negative c (e - places)

/-- The letters of the bases. -/
def bases : List (Char × ℕ) := [('x', 16), ('X', 16), ('o', 8), ('O', 8), ('b', 2), ('B', 2)]

/-- **A zero, the letter of a base, `sign` and digits for a number of 64 bits.** -/
inductive BaseNumeral (sign : List Char) : List Char → ℕ → Prop
  | mk {letter : Char} {base n : ℕ} {ds : List Char} (announced : (letter, base) ∈ bases)
      (digits : Digits base ds n) (ne_nil : ds ≠ []) (lt : n < 2 ^ 64) :
      BaseNumeral sign ('0' :: letter :: (sign ++ ds)) n

/-- **A numeral and the rational it denotes.** -/
inductive Numeral : List Char → ℚ → Prop
  | decimal {cs : List Char} {negative : Bool} {c : ℕ} {e : ℤ}
      (h : DecimalNumeral cs negative c e) : Numeral cs (signed negative (c * 10 ^ e))
  | base {cs : List Char} {n : ℕ} (h : BaseNumeral [] cs n) : Numeral cs n

/-! ## Reading numerals -/

section

variable {cs : List Char}

/-- The reader stops at the first character that is no digit. -/
theorem digits_append {ds : List Char} (digits : ∀ c ∈ ds, c.isDigit = true)
    (apart : ∀ c ∈ cs.head?, c.isDigit = false) : Literal.digits (ds ++ cs) = (ds, cs) := by
  have stop : cs.takeWhile Char.isDigit = [] ∧ cs.dropWhile Char.isDigit = cs := by
    cases cs with
    | nil => exact ⟨rfl, rfl⟩
    | cons c cs => simp [apart c rfl]
  rw [Literal.digits, List.span_eq_takeWhile_dropWhile, List.takeWhile_append_of_pos digits,
    List.dropWhile_append_of_pos digits, stop.1, stop.2, List.append_nil]

/-- Any text is digits and what comes behind. -/
theorem exists_digits (cs : List Char) : ∃ ds rest, cs = ds ++ rest ∧
    (∀ c ∈ ds, c.isDigit = true) ∧ (∀ c ∈ rest.head?, c.isDigit = false) := by
  refine ⟨cs.takeWhile Char.isDigit, cs.dropWhile Char.isDigit,
    List.takeWhile_append_dropWhile.symm, fun c hc => List.mem_takeWhile_imp hc, fun c hc => ?_⟩
  have := List.head?_dropWhile_not Char.isDigit cs
  rwa [hc] at this

/-- The sign at the front, and what follows it. -/
def sign (cs : List Char) : Bool × List Char :=
  match cs with
  | '-' :: cs => (true, cs)
  | '+' :: cs => (false, cs)
  | cs => (false, cs)

/-- A text that begins with no sign has none… -/
theorem sign_of_head (head : ∀ c ∈ cs.head?, c ≠ '-' ∧ c ≠ '+') : sign cs = (false, cs) := by
  unfold sign
  split <;> simp_all

/-- …and one that does has that one. -/
theorem sign_append {s : List Char} {negative : Bool} (isSign : Sign s negative)
    (head : ∀ c ∈ cs.head?, c ≠ '-' ∧ c ≠ '+') : sign (s ++ cs) = (negative, cs) := by
  cases isSign with
  | none => exact sign_of_head head
  | plus => rfl
  | minus => rfl

/-- Any text is a sign, perhaps empty, and what comes behind. -/
theorem exists_sign (cs : List Char) : ∃ s negative rest, cs = s ++ rest ∧ Sign s negative ∧
    sign cs = (negative, rest) := by
  unfold sign
  split
  · exact ⟨_, _, _, rfl, .minus, rfl⟩
  · exact ⟨_, _, _, rfl, .plus, rfl⟩
  · exact ⟨_, _, _, rfl, .none, rfl⟩

theorem exponent?_cons (c : Char) (cs : List Char) :
    Literal.exponent? (c :: cs) = if c = 'e' ∨ c = 'E' then
      match Literal.digits (sign cs).2 with
      | ([], _) => none
      | (ds, rest) =>
        let n : Int := Literal.digitsValue ds
        some (some (if (sign cs).1 then -n else n), rest)
    else some (none, c :: cs) := rfl

/-- A digit is neither a sign nor a point. -/
theorem ne_of_isDigit {c : Char} (h : c.isDigit = true) : c ≠ '-' ∧ c ≠ '+' ∧ c ≠ '.' := by
  refine ⟨?_, ?_, ?_⟩ <;> rintro rfl <;> cases h

/-- Digits before it do not make a text begin with a sign. -/
theorem head_digits_append {ds : List Char} (digits : ∀ c ∈ ds, c.isDigit = true)
    (head : ∀ c ∈ cs.head?, c ≠ '-' ∧ c ≠ '+') : ∀ c ∈ (ds ++ cs).head?, c ≠ '-' ∧ c ≠ '+' := by
  cases ds with
  | nil => exact head
  | cons d ds =>
    have := ne_of_isDigit (digits d List.mem_cons_self)
    simp [this.1, this.2.1]

/-- An exponent begins neither with a digit nor with what else a numeral may go on with. -/
theorem Exponent.head {e : ℤ} (h : Exponent cs e) :
    ∀ c ∈ cs.head?, c.isDigit = false ∧ c ≠ '.' ∧ c ≠ '-' ∧ c ≠ '+' := by
  cases h with
  | none => simp
  | some letter => rcases letter with rfl | rfl <;> simp +decide

/-- **What is read as an exponent is one**, where nothing follows it. -/
theorem exponent?_eq_some_iff {e : ℤ} :
    (∃ o, Literal.exponent? cs = some (o, []) ∧ o.getD 0 = e) ↔ Exponent cs e := by
  constructor
  · rintro ⟨o, read, rfl⟩
    cases cs with
    | nil =>
      cases read
      exact .none
    | cons c cs =>
      obtain ⟨s, negative, rest, rfl, isSign, split⟩ := exists_sign cs
      obtain ⟨ds, rest, rfl, digits, apart⟩ := exists_digits rest
      simp only [exponent?_cons, split, digits_append digits apart] at read
      by_cases letter : c = 'e' ∨ c = 'E'
      · rw [if_pos letter] at read
        cases ds with
        | nil => cases read
        | cons d ds =>
          cases read
          rw [List.append_nil]
          exact .some letter isSign (digits_ten_iff.mpr ⟨digits, rfl⟩) (List.cons_ne_nil d ds)
      · rw [if_neg letter] at read
        cases read
  · intro h
    cases h with
    | none => exact ⟨none, rfl, rfl⟩
    | @some letter s ds negative n isLetter isSign spelled ne_nil =>
      obtain ⟨digits, rfl⟩ := digits_ten_iff.mp spelled
      have head : ∀ c ∈ (ds ++ []).head?, c ≠ '-' ∧ c ≠ '+' := head_digits_append digits (by simp)
      have read : Literal.digits (ds ++ []) = (ds, []) := digits_append digits (by simp)
      rw [List.append_nil] at head read
      refine ⟨some (if negative then -(Literal.digitsValue ds : ℤ) else Literal.digitsValue ds),
        ?_, rfl⟩
      rw [exponent?_cons, if_pos isLetter, sign_append isSign head, read]
      cases ds with
      | nil => exact absurd rfl ne_nil
      | cons => rfl

/-- The digits behind the point, and what follows them. -/
def fraction (cs : List Char) : List Char × List Char :=
  match cs with
  | '.' :: cs => Literal.digits cs
  | cs => ([], cs)

theorem fraction_of_head (head : ∀ c ∈ cs.head?, c ≠ '.') : fraction cs = ([], cs) := by
  unfold fraction
  split <;> simp_all

/-- What is read behind the mantissa. -/
def ending? (negative : Bool) (whole fraction cs : List Char) : Option Binary64 :=
  if whole = [] ∧ fraction = [] then none
  else do
    let (exponent, rest) ← Literal.exponent? cs
    if rest = [] then DecimalLiteral.value? ⟨negative, whole, fraction, exponent.getD 0⟩ else none

/-- The reader takes a sign, digits, a point with digits, and an exponent, in this order. -/
theorem decimal?_eq : decimal? cs =
    let (negative, cs) := sign cs
    let (whole, cs) := Literal.digits cs
    let (fraction, cs) := fraction cs
    ending? negative whole fraction cs := rfl

/-- **A numeral ends with an exponent, or with nothing.** -/
theorem ending?_eq_some_iff {negative : Bool} {whole fraction : List Char} {x : Binary64} :
    ending? negative whole fraction cs = some x ↔ whole ++ fraction ≠ [] ∧ ∃ e, Exponent cs e ∧
      ofDecimal? negative (Literal.digitsValue (whole ++ fraction)) (e - fraction.length) =
        some x := by
  rw [ending?, ne_eq, List.append_eq_nil_iff]
  split_ifs with nothing
  · simp [nothing]
  · simp only [← exponent?_eq_some_iff, Option.bind_eq_bind, Option.bind_eq_some_iff, Prod.exists]
    constructor
    · rintro ⟨o, rest, read, h⟩
      split_ifs at h with done
      exact ⟨nothing, _, ⟨o, done ▸ read, rfl⟩, h⟩
    · rintro ⟨-, _, ⟨o, read, rfl⟩, h⟩
      exact ⟨o, [], read, (if_pos rfl).trans h⟩

/-- **What is read as a decimal is a decimal numeral.** -/
theorem decimal?_eq_some_iff {x : Binary64} : decimal? cs = some x ↔
    ∃ negative c e, DecimalNumeral cs negative c e ∧ ofDecimal? negative c e = some x := by
  constructor
  · intro h
    obtain ⟨s, negative, rest, rfl, isSign, split⟩ := exists_sign cs
    obtain ⟨whole, rest, rfl, digits, apart⟩ := exists_digits rest
    simp only [decimal?_eq, split, digits_append digits apart] at h
    obtain ⟨ne_nil, e, isExponent, h⟩ := ending?_eq_some_iff.mp h
    unfold fraction at ne_nil isExponent h
    split at h
    next cs _ =>
      obtain ⟨fraction, rest, rfl, digits', apart'⟩ := exists_digits cs
      simp only [digits_append digits' apart'] at ne_nil isExponent h
      have spelled : Digits 10 (whole ++ fraction) (Literal.digitsValue (whole ++ fraction)) :=
        digits_ten_iff.mpr ⟨List.forall_mem_append.mpr ⟨digits, digits'⟩, rfl⟩
      have whole := DecimalNumeral.mk isSign (.point spelled ne_nil) isExponent
      rw [List.append_assoc] at whole
      exact ⟨_, _, _, whole, h⟩
    next =>
      simp only [List.append_nil] at ne_nil isExponent h
      have spelled : Digits 10 whole (Literal.digitsValue whole) := digits_ten_iff.mpr ⟨digits, rfl⟩
      exact ⟨_, _, _, .mk isSign (.whole spelled ne_nil) isExponent, h⟩
  · rintro ⟨_, _, _, ⟨isSign, isMantissa, isExponent⟩, h⟩
    have after := isExponent.head
    cases isMantissa with
    | whole spelled ne_nil =>
      obtain ⟨digits, rfl⟩ := digits_ten_iff.mp spelled
      have head := head_digits_append digits fun c hc => (after c hc).2.2
      simp only [decimal?_eq, sign_append isSign head,
        digits_append digits fun c hc => (after c hc).1,
        fraction_of_head fun c hc => (after c hc).2.1]
      exact ending?_eq_some_iff.mpr ⟨by simpa using ne_nil, _, isExponent, by simpa using h⟩
    | @point whole behind _ spelled ne_nil =>
      obtain ⟨digits, rfl⟩ := digits_ten_iff.mp spelled
      obtain ⟨before, behind⟩ := List.forall_mem_append.mp digits
      rw [List.append_assoc, List.cons_append]
      have head (rest : List Char) : ∀ c ∈ (whole ++ '.' :: rest).head?, c ≠ '-' ∧ c ≠ '+' :=
        head_digits_append before (by simp)
      have split (rest : List Char) :
          Literal.digits (whole ++ '.' :: rest) = (whole, '.' :: rest) :=
        digits_append before (by simp)
      simp only [decimal?_eq, sign_append isSign (head _), split, fraction,
        digits_append behind fun c hc => (after c hc).1]
      exact ending?_eq_some_iff.mpr ⟨ne_nil, _, isExponent, h⟩

/-- Three letters, in either case, announce a base. -/
theorem base?_eq_some_iff {letter : Char} {base : ℕ} :
    base? letter = some base ↔ (letter, base) ∈ bases := by
  unfold base? bases
  grind

theorem le_sixteen {letter : Char} {base : ℕ} (announced : (letter, base) ∈ bases) : base ≤ 16 := by
  unfold bases at announced
  grind

theorem Digits.exists_isDigit {base n : ℕ} (h : Digits base cs n) {c : Char} (hc : c ∈ cs) :
    ∃ k, IsDigit base k c := by
  induction h with
  | nil => cases hc
  | concat before last ih =>
    rcases List.mem_append.mp hc with hc | hc
    · exact ih hc
    · exact ⟨_, List.mem_singleton.mp hc ▸ last⟩

/-- A plus sign is no digit. -/
theorem Digits.head_ne_plus {base n : ℕ} (sixteen : base ≤ 16) (h : Digits base cs n) :
    ∀ rest, cs ≠ '+' :: rest := by
  rintro rest rfl
  obtain ⟨k, isDigit⟩ := h.exists_isDigit List.mem_cons_self
  have := (isDigit_iff_toNat sixteen).mp isDigit
  simp only [Char.reduceToNat] at this
  grind

/-- Behind the letter come digits that fit 64 bits… -/
theorem afterPrefix?_of_head {base : ℕ} (sixteen : base ≤ 16) {x : Binary64}
    (head : ∀ rest, cs ≠ '+' :: rest) : afterPrefix? base cs = some x ↔
      ∃ n, Digits base cs n ∧ cs ≠ [] ∧ n < 2 ^ 64 ∧ ofInt n = x := by
  simp only [afterPrefix?, ← digitsValue?_eq_some_iff sixteen]
  grind

/-- …and a plus sign may come before them. -/
theorem afterPrefix?_plus {base : ℕ} (sixteen : base ≤ 16) {x : Binary64} :
    afterPrefix? base ('+' :: cs) = some x ↔
      ∃ n, Digits base cs n ∧ cs ≠ [] ∧ n < 2 ^ 64 ∧ ofInt n = x := by
  simp only [afterPrefix?, ← digitsValue?_eq_some_iff sixteen]
  grind

/-- Behind the letter of a base there are digits, or a plus sign and digits. -/
theorem afterPrefix?_eq_some_iff {base : ℕ} (sixteen : base ≤ 16) {x : Binary64} :
    afterPrefix? base cs = some x ↔ ∃ sign ds n, (sign = [] ∨ sign = ['+']) ∧ cs = sign ++ ds ∧
      Digits base ds n ∧ ds ≠ [] ∧ n < 2 ^ 64 ∧ ofInt n = x := by
  constructor
  · intro h
    by_cases plus : ∃ rest, cs = '+' :: rest
    · obtain ⟨rest, rfl⟩ := plus
      obtain ⟨n, read⟩ := (afterPrefix?_plus sixteen).mp h
      exact ⟨['+'], rest, n, .inr rfl, rfl, read⟩
    · obtain ⟨n, read⟩ := (afterPrefix?_of_head sixteen (not_exists.mp plus)).mp h
      exact ⟨[], cs, n, .inl rfl, rfl, read⟩
  · rintro ⟨sign, ds, n, rfl | rfl, rfl, read⟩
    · exact (afterPrefix?_of_head sixteen (read.1.head_ne_plus sixteen)).mpr ⟨n, read⟩
    · exact (afterPrefix?_plus sixteen).mpr ⟨n, read⟩

/-- The characters of decimal numerals. -/
theorem DecimalNumeral.mem {negative : Bool} {c : ℕ} {e : ℤ} (h : DecimalNumeral cs negative c e) :
    ∀ d ∈ cs, d.isDigit = true ∨ d ∈ ['-', '+', '.', 'e', 'E'] := by
  have sign {s : List Char} {negative : Bool} (h : Sign s negative) : ∀ d ∈ s, d ∈ ['-', '+'] := by
    cases h <;> simp
  have digits {ds : List Char} {n : ℕ} (h : Digits 10 ds n) : ∀ d ∈ ds, d.isDigit = true :=
    (digits_ten_iff.mp h).1
  have exponent {t : List Char} {e : ℤ} (h : Exponent t e) :
      ∀ d ∈ t, d.isDigit = true ∨ d ∈ ['-', '+', 'e', 'E'] := by
    cases h with
    | none => simp
    | some letter isSign spelled =>
      have := sign isSign
      have := digits spelled
      grind
  obtain ⟨isSign, isMantissa, isExponent⟩ := h
  have := sign isSign
  have := exponent isExponent
  cases isMantissa with
  | whole spelled =>
    have := digits spelled
    grind
  | point spelled =>
    have := digits spelled
    grind

/-- No letter of a base stands in a decimal numeral. -/
theorem DecimalNumeral.notMem {negative : Bool} {c : ℕ} {e : ℤ} (h : DecimalNumeral cs negative c e)
    {letter : Char} {base : ℕ} (announced : (letter, base) ∈ bases) : letter ∉ cs := by
  intro hd
  have := h.mem letter hd
  simp only [bases, List.mem_cons, Prod.mk.injEq, List.not_mem_nil, or_false] at announced
  rcases announced with ⟨rfl, -⟩ | ⟨rfl, -⟩ | ⟨rfl, -⟩ | ⟨rfl, -⟩ | ⟨rfl, -⟩ | ⟨rfl, -⟩ <;>
    simp +decide at this

theorem baseNumeral_cons_iff {sign : List Char} {letter : Char} {n : ℕ} :
    BaseNumeral sign ('0' :: letter :: cs) n ↔ ∃ base ds, (letter, base) ∈ bases ∧ cs = sign ++ ds ∧
      Digits base ds n ∧ ds ≠ [] ∧ n < 2 ^ 64 := by
  constructor
  · intro h
    generalize same : '0' :: letter :: cs = whole at h
    obtain ⟨announced, digits, ne_nil, lt⟩ := h
    cases same
    exact ⟨_, _, announced, rfl, digits, ne_nil, lt⟩
  · rintro ⟨base, ds, announced, rfl, digits, ne_nil, lt⟩
    exact .mk announced digits ne_nil lt

/-- **The words that are read as numbers** are the decimal numerals and those of a base, the latter
also with a plus sign. -/
theorem number?_eq_some_iff {x : Binary64} : number? cs = some x ↔
    (∃ negative c e, DecimalNumeral cs negative c e ∧ ofDecimal? negative c e = some x) ∨
    ∃ sign n, (sign = [] ∨ sign = ['+']) ∧ BaseNumeral sign cs n ∧ ofInt n = x := by
  unfold number?
  split
  next letter cs =>
    simp only [baseNumeral_cons_iff]
    cases announced : base? letter with
    | some base =>
      rw [afterPrefix?_eq_some_iff (le_sixteen (base?_eq_some_iff.mp announced))]
      have isBase (other : ℕ) : (letter, other) ∈ bases ↔ other = base := by
        rw [← base?_eq_some_iff, announced, Option.some_inj, eq_comm]
      simp only [isBase]
      have notDecimal {negative c e} (h : DecimalNumeral ('0' :: letter :: cs) negative c e) :
          False := h.notMem (base?_eq_some_iff.mp announced) (by simp)
      grind
    | none =>
      have noBase (other : ℕ) : (letter, other) ∉ bases := by
        rw [← base?_eq_some_iff, announced]
        simp
      simp [noBase, decimal?_eq_some_iff]
  next other =>
    have notBase {sign : List Char} {n : ℕ} : ¬BaseNumeral sign cs n := by
      rintro ⟨-, -, -, -⟩
      exact other _ _ rfl
    simp [notBase, decimal?_eq_some_iff]

end

end DocDispatch.Filter
