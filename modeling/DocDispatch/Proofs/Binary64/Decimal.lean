import Mathlib.Algebra.Order.Field.Power
import Mathlib.Tactic.FieldSimp
import DocDispatch.Binary64.Shortest
import DocDispatch.Proofs.Binary64.Nearest

/-!
# Proofs/Binary64/Decimal — decimals and the numbers they round to

    10⁻³³⁰  <  2⁻¹⁰⁷⁵  …  2¹⁰²⁴  <  10³¹⁰

A decimal rounds as the rational it is (`ofDecimal?_eq_some_iff`); the two bounds between which it
is computed at all lie outside the range of the numbers.  The decimal a number is written as rounds
to that number (`rounds_shortest`).
-/

namespace DocDispatch.Binary64

/-! ## Size -/

/-- **A number has as many digits as it needs** — one power of ten is above it… -/
theorem lt_pow_digitCount (n : ℕ) : n < 10 ^ digitCount n :=
  (Nat.length_toDigits_le_iff (by decide) Nat.length_toDigits_pos).mp le_rfl

/-- …and the one before is not. -/
theorem pow_digitCount_le {n : ℕ} (some : n ≠ 0) : 10 ^ (digitCount n - 1) ≤ n := by
  rcases Nat.eq_zero_or_pos (digitCount n - 1) with one | more
  · rw [one, pow_zero]
    exact Nat.pos_of_ne_zero some
  · by_contra below
    have := (Nat.length_toDigits_le_iff (by decide) more).mpr (not_le.mp below)
    unfold digitCount at more this
    omega

section

variable {c : ℕ} {e : ℤ}

/-- A decimal whose digits end below a place is below that power of ten. -/
theorem decimal_le {k : ℤ} (h : e + digitCount c ≤ k) : (c : ℚ) * 10 ^ e ≤ 10 ^ k := by
  have digits : (c : ℚ) ≤ 10 ^ (digitCount c : ℤ) := by
    rw [zpow_natCast]
    exact_mod_cast (lt_pow_digitCount c).le
  calc (c : ℚ) * 10 ^ e ≤ 10 ^ (digitCount c : ℤ) * 10 ^ e := by gcongr
    _ = 10 ^ (digitCount c + e) := (zpow_add₀ (by norm_num) _ _).symm
    _ ≤ 10 ^ k := zpow_le_zpow_right₀ (by norm_num) (by omega)

/-- …and one whose digits reach beyond the place is above it. -/
theorem le_decimal {k : ℤ} (some : c ≠ 0) (h : k < e + digitCount c) :
    (10 : ℚ) ^ k ≤ c * 10 ^ e := by
  have count : 0 < digitCount c := Nat.length_toDigits_pos
  have digits : (10 : ℚ) ^ ((digitCount c - 1 : ℕ) : ℤ) ≤ c := by
    rw [zpow_natCast]
    exact_mod_cast pow_digitCount_le some
  calc (10 : ℚ) ^ k ≤ 10 ^ ((digitCount c - 1 : ℕ) + e) :=
        zpow_le_zpow_right₀ (by norm_num) (by omega)
    _ = 10 ^ ((digitCount c - 1 : ℕ) : ℤ) * 10 ^ e := zpow_add₀ (by norm_num) _ _
    _ ≤ c * 10 ^ e := by gcongr

end

/-- Anything below 10⁻³³⁰ is no more than half the least magnitude, so it rounds to zero. -/
theorem small_decimal : (10 : ℚ) ^ (-330 : ℤ) ≤ 1 / 2 ^ 1075 := by
  have base : (2 : ℚ) ^ 43 ≤ 10 ^ 13 := by norm_num
  have powers : (2 : ℚ) ^ 1075 ≤ 10 ^ 330 := by
    calc (2 : ℚ) ^ 1075 = (2 ^ 43) ^ 25 := by rw [← pow_mul]
      _ ≤ (10 ^ 13) ^ 25 := pow_le_pow_left₀ (by positivity) base 25
      _ = 10 ^ 325 := by rw [← pow_mul]
      _ ≤ 10 ^ 330 := pow_le_pow_right₀ (by norm_num) (by norm_num)
  rw [zpow_neg, one_div]
  exact inv_anti₀ (by positivity) powers

/-- Anything from 10³¹⁰ on is out of range. -/
theorem large_decimal : (2 : ℚ) ^ 1024 - 2 ^ 970 ≤ 10 ^ (310 : ℤ) := by
  have base : (2 : ℚ) ^ 93 ≤ 10 ^ 28 := by norm_num
  calc (2 : ℚ) ^ 1024 - 2 ^ 970 ≤ 2 ^ 1024 := sub_le_self _ (by positivity)
    _ = (2 ^ 93) ^ 11 * 2 := by rw [← pow_mul, ← pow_succ]
    _ ≤ (10 ^ 28) ^ 11 * 10 ^ 2 := by gcongr; norm_num
    _ = 10 ^ 310 := by rw [← pow_mul, ← pow_add]

/-! ## Rounding -/

/-- A decimal is rounded as a quotient, also where it is known beforehand what comes out. -/
theorem exists_quotient (c : ℕ) (e : ℤ) : ∃ n d : ℕ, 0 < d ∧ (n : ℚ) / d = c * 10 ^ e ∧
    ∀ negative, ofDecimal? negative c e = nearest? negative n d := by
  obtain ⟨n, d, hd, quotient, computed⟩ : ∃ n d : ℕ, 0 < d ∧ (n : ℚ) / d = c * 10 ^ e ∧
      ∀ negative, (if 0 ≤ e then nearest? negative (c * Nat.pow 10 e.toNat) 1
        else nearest? negative c (Nat.pow 10 (-e).toNat)) = nearest? negative n d := by
    rcases le_or_gt 0 e with whole | broken
    · refine ⟨_, 1, one_pos, ?_, fun _ => if_pos whole⟩
      lift e to ℕ using whole
      rw [Int.toNat_natCast, zpow_natCast, Nat.cast_one, div_one]
      exact_mod_cast rfl
    · refine ⟨c, _, Nat.pow_pos (by decide), ?_, fun _ => if_neg (not_le.mpr broken)⟩
      obtain ⟨k, rfl⟩ := Int.exists_eq_neg_ofNat broken.le
      rw [neg_neg, Int.toNat_natCast, zpow_neg, zpow_natCast, div_eq_mul_inv]
      congr 2
      exact_mod_cast rfl
  refine ⟨n, d, hd, quotient, fun negative => ?_⟩
  rw [ofDecimal?]
  split_ifs with small large whole
  · refine (nearest?_of_small hd (quotient ▸ ?_)).symm
    rcases small with rfl | small
    · rw [Nat.cast_zero, zero_mul]
      positivity
    · exact (decimal_le small.le).trans small_decimal
  · refine ((nearest?_eq_none_iff hd).mpr (quotient ▸ large_decimal.trans ?_)).symm
    exact le_decimal (fun none => small (Or.inl none)) large
  · rw [← computed, if_pos whole]
  · rw [← computed, if_neg whole]

/-- **The number for a decimal is what it rounds to**, with the sign. -/
theorem ofDecimal?_eq_some_iff {negative : Bool} {c : ℕ} {e : ℤ} {x : Binary64} :
    ofDecimal? negative c e = some x ↔
      x.negative = negative ∧ Rounds (signed negative (c * 10 ^ e)) x := by
  obtain ⟨n, d, hd, quotient, computed⟩ := exists_quotient c e
  rw [computed, nearest?_eq_some_iff hd, quotient]

/-! ## The decimal a number is written as -/

/-- The decimal as a rational. -/
def Decimal.value (d : Decimal) : ℚ := d.coefficient * 10 ^ d.exponent

/-- Digits read back where they round to the number they were taken from. -/
theorem readsBack_iff {x : Binary64} {d : Decimal} :
    x.readsBack d = true ↔ Rounds (signed x.negative d.value) x := by
  rw [readsBack, beq_iff_eq, ofDecimal?_eq_some_iff, Decimal.value]
  exact and_iff_right rfl

/-- The search for short digits returns none that do not read back. -/
theorem readsBack_of_onGrid? {x : Binary64} {half : HalfWay} {count : ℕ} {d : Decimal}
    (h : x.onGrid? half count = some d) : x.readsBack d = true := by
  obtain ⟨onGrid, same⟩ : ∃ onGrid, onGrid = onGrid? := ⟨_, rfl⟩
  rw [← same] at h
  delta onGrid? at same
  -- with the functions it calls taken as unknown, so that no power of ten is computed
  generalize pointOf = point at same
  generalize quotientOn = quotient at same
  generalize readsBack = reads at same ⊢
  subst same
  grind

/-- A binary fraction is a decimal one: 2⁻ᵏ is 5ᵏ · 10⁻ᵏ. -/
theorem mul_pow_five (m k : ℕ) :
    ((m * Nat.pow 5 k : ℕ) : ℚ) * 10 ^ (-(k : ℤ)) = m / 2 ^ k := by
  have tens : (10 : ℚ) ^ k = 2 ^ k * 5 ^ k := by rw [← mul_pow]; norm_num
  have fives : ((Nat.pow 5 k : ℕ) : ℚ) = 5 ^ k := by rw [Nat.pow_eq, Nat.cast_pow, Nat.cast_ofNat]
  rw [zpow_neg, zpow_natCast, Nat.cast_mul, fives, tens]
  field_simp

/-- **The exact decimal of a number is its magnitude** — the last resort of the search is right. -/
theorem value_exactDecimal (x : Binary64) :
    x.exactDecimal.value = x.magnitude / unitsPerOne := by
  have coefficient : x.exactDecimal.coefficient = x.magnitude * Nat.pow 5 1074 := rfl
  have exponent : x.exactDecimal.exponent = -((1074 : ℕ) : ℤ) := rfl
  rw [Decimal.value, coefficient, exponent, cast_unitsPerOne]
  generalize 1074 = k
  exact mul_pow_five x.magnitude k

/-- Zeros at the end do not count. -/
theorem Decimal.value_trim : ∀ (fuel : ℕ) (d : Decimal), (d.trim fuel).value = d.value
  | 0, _ => rfl
  | fuel + 1, d => by
      unfold trim
      split
      next tens =>
        rw [value_trim fuel]
        obtain ⟨k, hk⟩ := Nat.dvd_of_mod_eq_zero tens
        simp only [value, hk, Nat.mul_div_cancel_left k (by decide : 0 < 10)]
        rw [zpow_add_one₀ (by norm_num)]
        push_cast
        ring
      next => rfl

/-- **The decimal a number is written as rounds to the number.** -/
theorem rounds_shortest (x : Binary64) (half : HalfWay) :
    Rounds (signed x.negative (x.shortest half).value) x := by
  unfold shortest
  rw [Decimal.value_trim]
  cases found : (List.range 17).findSome? fun i => x.onGrid? half (i + 1) with
  | none =>
    rw [Option.getD_none, value_exactDecimal, ← value_eq]
    exact rounds_value x
  | some d =>
    obtain ⟨i, -, onGrid⟩ := List.exists_of_findSome?_eq_some found
    exact readsBack_iff.mp (readsBack_of_onGrid? onGrid)

end DocDispatch.Binary64
