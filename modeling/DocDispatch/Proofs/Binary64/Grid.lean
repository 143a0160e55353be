import Mathlib.Algebra.Order.Field.Basic
import Mathlib.Algebra.Order.Ring.Rat
import Mathlib.Tactic.Linarith
import Mathlib.Tactic.Positivity
import Mathlib.Tactic.Ring
import DocDispatch.Binary64.Round

/-!
# Proofs/Binary64/Grid — the closest magnitude

    magnitude   0  1  2  …  2⁵²  …  2⁵³ − 1  |  2⁵³  2⁵³ + 2  …  |  2⁵⁴  2⁵⁴ + 4  …     units
    shift       0                            |  1                |  2

The magnitudes of one shift are multiples of `2 ^ shift` units, and those of smaller shifts lie
below them all.  What is nearest on the grid of its own size is therefore nearest of all
(`closest_of_onGrid`), and a quotient, which is rounded there, goes to the closest magnitude
(`closest_of_nearest?`).  Of two neighbouring magnitudes one has an odd mantissa, so with ties to
even there is one closest magnitude only (`Closest.magnitude_eq`).
-/

namespace DocDispatch

/-! ## Whole numbers -/

/-- A rational rounded to a natural number, a half to the even one. -/
structure HalfEven (y : ℚ) (m : ℕ) : Prop where
  within : |(m : ℚ) - y| ≤ 1 / 2
  even : |(m : ℚ) - y| = 1 / 2 → Even m

/-- A quotient is rounded by comparing twice the remainder with the divisor. -/
theorem roundDiv_within (n d : ℕ) (hd : 0 < d) :
    2 * (roundDiv n d * d) ≤ 2 * n + d ∧ 2 * n ≤ 2 * (roundDiv n d * d) + d ∧
      (2 * (roundDiv n d * d) = 2 * n + d ∨ 2 * n = 2 * (roundDiv n d * d) + d →
        roundDiv n d % 2 = 0) := by
  have parts : d * (n / d) + n % d = n := Nat.div_add_mod n d
  have small : n % d < d := Nat.mod_lt n hd
  unfold roundDiv
  generalize n / d = q at *
  generalize n % d = r at *
  obtain ⟨k, rfl | rfl⟩ := Nat.even_or_odd' q
  all_goals
    simp only [Nat.mul_mod_right, Nat.mul_add_mod]
    split_ifs <;> grind

/-- **Division rounds half to even.** -/
theorem halfEven_roundDiv (n : ℕ) {d : ℕ} (hd : 0 < d) : HalfEven (n / d) (roundDiv n d) := by
  obtain ⟨above, below, even⟩ := roundDiv_within n d hd
  have hd' : (0 : ℚ) < d := by exact_mod_cast hd
  have above : 2 * ((roundDiv n d : ℚ) * d) ≤ 2 * n + d := by exact_mod_cast above
  have below : 2 * (n : ℚ) ≤ 2 * (roundDiv n d * d) + d := by exact_mod_cast below
  have scaled : |(roundDiv n d : ℚ) - n / d| = |(roundDiv n d : ℚ) * d - n| / d := by
    rw [← abs_of_pos hd', ← abs_div, abs_of_pos hd', sub_div, mul_div_cancel_right₀ _ hd'.ne']
  constructor
  · rw [scaled, div_le_div_iff₀ hd' two_pos, one_mul]
    have : |(roundDiv n d : ℚ) * d - n| ≤ d / 2 := abs_le.mpr ⟨by linarith, by linarith⟩
    linarith
  · intro half
    rw [scaled, div_eq_div_iff hd'.ne' two_ne_zero, one_mul] at half
    refine Nat.even_iff.mpr (even ?_)
    rcases abs_cases ((roundDiv n d : ℚ) * d - n) with ⟨same, -⟩ | ⟨same, -⟩
    · left
      have : 2 * ((roundDiv n d : ℚ) * d) = 2 * n + d := by linarith
      exact_mod_cast this
    · right
      have : 2 * (n : ℚ) = 2 * (roundDiv n d * d) + d := by linarith
      exact_mod_cast this

namespace HalfEven

variable {y : ℚ} {m : ℕ} (h : HalfEven y m)

include h

/-- Another natural number is at least one away from the rounded one. -/
theorem half_le {k : ℕ} (other : k ≠ m) : 1 / 2 ≤ |(k : ℚ) - y| := by
  have apart : (1 : ℚ) ≤ |(k : ℚ) - m| := by
    have : (1 : ℤ) ≤ |(k : ℤ) - m| := Int.one_le_abs (by omega)
    exact_mod_cast this
  have triangle : |(k : ℚ) - m| ≤ |(k : ℚ) - y| + |(m : ℚ) - y| := by
    rw [abs_sub_comm (m : ℚ) y]
    exact abs_sub_le _ _ _
  linarith [h.within]

/-- **Nothing on the grid is nearer.** -/
theorem near (k : ℕ) : |(m : ℚ) - y| ≤ |(k : ℚ) - y| := by
  by_cases same : k = m
  · rw [same]
  · exact h.within.trans (h.half_le same)

/-- …and where something else is as near, the rounded one is even. -/
theorem even_of_tie {k : ℕ} (other : k ≠ m) (tie : |(m : ℚ) - y| = |(k : ℚ) - y|) : Even m :=
  h.even (le_antisymm h.within (tie ▸ h.half_le other))

/-- Rounding does not cross a point of the grid, from above… -/
theorem le_of_le {k : ℕ} (hk : k ≤ y) : k ≤ m := by
  have : (k : ℚ) < m + 1 := by linarith [(abs_le.mp h.within).1]
  exact Nat.lt_succ_iff.mp (by exact_mod_cast this)

/-- …or from below. -/
theorem ge_of_ge {k : ℕ} (hk : y ≤ k) : m ≤ k := by
  have : (m : ℚ) < k + 1 := by linarith [(abs_le.mp h.within).2]
  exact Nat.lt_succ_iff.mp (by exact_mod_cast this)

/-- The last number of 53 digits is odd, so the half behind it is rounded up. -/
theorem lt_of_fits (fits : m < 2 ^ 53) : y < 2 ^ 53 - 1 / 2 := by
  by_contra beyond
  have mantissa : (m : ℚ) + 1 ≤ 2 ^ 53 := by exact_mod_cast fits
  have within := abs_le.mp h.within
  have tie : |(m : ℚ) - y| = 1 / 2 := by
    rw [abs_of_nonpos (by linarith)]
    linarith
  have last : m + 1 = 2 ^ 53 := by
    have : (m : ℚ) + 1 = 2 ^ 53 := by linarith
    exact_mod_cast this
  obtain ⟨k, hk⟩ := h.even tie
  omega

end HalfEven

namespace Binary64

/-! ## Magnitudes -/

theorem cast_magnitude (x : Binary64) : (x.magnitude : ℚ) = x.mantissa * 2 ^ x.shift := by
  exact_mod_cast rfl

/-- A smaller shift stays below the first full mantissa of a larger one. -/
theorem magnitude_lt (x : Binary64) {s : ℕ} (h : x.shift < s) :
    (x.magnitude : ℚ) < 2 ^ 52 * 2 ^ s := by
  have mantissa : (x.mantissa : ℚ) < 2 ^ 53 := by exact_mod_cast x.mantissa_lt
  calc (x.magnitude : ℚ)
      < 2 ^ 53 * 2 ^ x.shift := by rw [cast_magnitude]; gcongr
    _ = 2 ^ 52 * 2 ^ (x.shift + 1) := by ring
    _ ≤ 2 ^ 52 * 2 ^ s := by gcongr; exacts [one_le_two, h]

/-- A number whose shift is not zero has a full mantissa. -/
theorem le_magnitude (x : Binary64) (h : x.shift ≠ 0) :
    2 ^ 52 * 2 ^ x.shift ≤ (x.magnitude : ℚ) := by
  have mantissa : (2 ^ 52 : ℚ) ≤ x.mantissa := by exact_mod_cast x.canonical.resolve_left h
  rw [cast_magnitude]
  gcongr

/-- A magnitude is on every finer grid than its own. -/
theorem magnitude_eq_mul (x : Binary64) {s : ℕ} (h : s ≤ x.shift) :
    (x.magnitude : ℚ) = (x.mantissa * 2 ^ (x.shift - s) : ℕ) * 2 ^ s := by
  rw [cast_magnitude]
  push_cast
  rw [mul_assoc, ← pow_add, Nat.sub_add_cancel h]

/-- **A number is its sign and its magnitude.** -/
theorem eq_of_magnitude {x y : Binary64} (sign : x.negative = y.negative)
    (same : x.magnitude = y.magnitude) : x = y := by
  have same' : (x.magnitude : ℚ) = y.magnitude := by rw [same]
  have shift : x.shift = y.shift := by
    rcases lt_trichotomy x.shift y.shift with below | equal | above
    · exact absurd same' ((x.magnitude_lt below).trans_le (y.le_magnitude (by omega))).ne
    · exact equal
    · exact absurd same' ((y.magnitude_lt above).trans_le (x.le_magnitude (by omega))).ne'
  have mantissa : x.mantissa = y.mantissa := by
    rw [cast_magnitude, cast_magnitude, shift] at same'
    exact_mod_cast mul_right_cancel₀ (pow_ne_zero _ two_ne_zero) same'
  cases x
  cases y
  simp_all

/-- The number with the next mantissa, for a mantissa that is not the last of its shift. -/
theorem exists_next (x : Binary64) (h : Even x.mantissa) :
    ∃ z : Binary64, (z.magnitude : ℚ) = x.magnitude + 2 ^ x.shift := by
  have small : x.mantissa + 1 < 0x20000000000000 := by
    have := x.mantissa_lt
    obtain ⟨k, hk⟩ := h
    omega
  have canonical : x.shift = 0 ∨ 0x10000000000000 ≤ x.mantissa + 1 := x.canonical.imp id (by omega)
  refine ⟨⟨x.negative, x.mantissa + 1, x.shift, small, x.shift_le, canonical⟩, ?_⟩
  rw [cast_magnitude, cast_magnitude]
  push_cast
  ring

/-! ## The closest magnitude -/

/-- The magnitude is nearest to a number of units, and of two nearest it has the even mantissa. -/
structure Closest (r : ℚ) (x : Binary64) : Prop where
  near (y : Binary64) : |(x.magnitude : ℚ) - r| ≤ |(y.magnitude : ℚ) - r|
  even (y : Binary64) : y.magnitude ≠ x.magnitude →
    |(x.magnitude : ℚ) - r| = |(y.magnitude : ℚ) - r| → Even x.mantissa

/-- **What is nearest on the grid of its size is nearest of all.** -/
theorem closest_of_onGrid {r : ℚ} {s m : ℕ} (rounded : HalfEven (r / 2 ^ s) m)
    (large : s = 0 ∨ 2 ^ 52 * 2 ^ s ≤ r) {x : Binary64} (magnitude : (x.magnitude : ℚ) = m * 2 ^ s)
    (even : Even m → Even x.mantissa) : Closest r x := by
  have scale (k : ℚ) : |k * 2 ^ s - r| = |k - r / 2 ^ s| * 2 ^ s := by
    have pos : (0 : ℚ) < 2 ^ s := by positivity
    calc |k * 2 ^ s - r| = |(k - r / 2 ^ s) * 2 ^ s| := by rw [sub_mul, div_mul_cancel₀ _ pos.ne']
      _ = |k - r / 2 ^ s| * 2 ^ s := by rw [abs_mul, abs_of_pos pos]
  have onGrid (k : ℕ) : |(x.magnitude : ℚ) - r| ≤ |(k : ℚ) * 2 ^ s - r| := by
    rw [magnitude, scale, scale]
    exact mul_le_mul_of_nonneg_right (rounded.near k) (by positivity)
  -- a number off the grid is below the grid's first number of 53 digits, and that below `r`
  have offGrid {y : Binary64} (h : y.shift < s) :
      |(x.magnitude : ℚ) - r| < |(y.magnitude : ℚ) - r| := by
    have first : |(x.magnitude : ℚ) - r| ≤ |2 ^ 52 * 2 ^ s - r| := by exact_mod_cast onGrid (2 ^ 52)
    have below := y.magnitude_lt h
    have above := large.resolve_left (by omega)
    rw [abs_of_nonpos (by linarith : (2 : ℚ) ^ 52 * 2 ^ s - r ≤ 0)] at first
    rw [abs_of_nonpos (by linarith : (y.magnitude : ℚ) - r ≤ 0)]
    linarith
  constructor
  · intro y
    rcases lt_or_ge y.shift s with off | on
    · exact (offGrid off).le
    · rw [y.magnitude_eq_mul on]
      exact onGrid _
  · intro y other tie
    rcases lt_or_ge y.shift s with off | on
    · exact absurd tie (offGrid off).ne
    · have hy := y.magnitude_eq_mul on
      refine even (rounded.even_of_tie (k := y.mantissa * 2 ^ (y.shift - s)) ?_ ?_)
      · rintro rfl
        exact other (by exact_mod_cast hy.trans magnitude.symm)
      · rw [hy, magnitude, scale, scale] at tie
        exact mul_right_cancel₀ (by positivity) tie

/-- There is no tie of two closest magnitudes, which would be neighbours with even mantissas. -/
theorem Closest.not_below {r : ℚ} {x y : Binary64} (hx : Closest r x) (hy : Closest r y) :
    ¬ x.magnitude < y.magnitude := by
  intro below
  have below' : (x.magnitude : ℚ) < y.magnitude := by exact_mod_cast below
  have tie : |(x.magnitude : ℚ) - r| = |(y.magnitude : ℚ) - r| :=
    le_antisymm (hx.near y) (hy.near x)
  have evenX : Even x.mantissa := hx.even y below.ne' tie
  have evenY : Even y.mantissa := hy.even x below.ne tie.symm
  obtain ⟨z, next⟩ := x.exists_next evenX
  have step : (0 : ℚ) < 2 ^ x.shift := by positivity
  -- the next number is not between the two, so the larger one has at most its magnitude…
  have bound : (y.magnitude : ℚ) ≤ x.magnitude + 2 ^ x.shift := by
    by_contra between
    have := hx.near z
    grind
  -- …and is on the grid, with an even multiple, between two neighbouring ones
  have onGrid : x.shift ≤ y.shift := by
    by_contra off
    have := y.magnitude_lt (not_le.mp off)
    have := x.le_magnitude (by omega)
    linarith
  rw [y.magnitude_eq_mul onGrid, x.cast_magnitude] at bound below'
  have lower : x.mantissa < y.mantissa * 2 ^ (y.shift - x.shift) := by
    exact_mod_cast lt_of_mul_lt_mul_right below' step.le
  have upper : y.mantissa * 2 ^ (y.shift - x.shift) ≤ x.mantissa + 1 := by
    have : ((y.mantissa * 2 ^ (y.shift - x.shift) : ℕ) : ℚ) * 2 ^ x.shift ≤
        ((x.mantissa + 1 : ℕ) : ℚ) * 2 ^ x.shift := by
      push_cast at bound ⊢
      linarith
    exact_mod_cast le_of_mul_le_mul_right this step
  have even : Even (y.mantissa * 2 ^ (y.shift - x.shift)) := evenY.mul_right _
  obtain ⟨i, hi⟩ := evenX
  obtain ⟨j, hj⟩ := even
  omega

/-- **Closest numbers have one magnitude** — of two, neither is below the other. -/
theorem Closest.magnitude_eq {r : ℚ} {x y : Binary64} (hx : Closest r x) (hy : Closest r y) :
    x.magnitude = y.magnitude :=
  le_antisymm (not_lt.mp (hy.not_below hx)) (not_lt.mp (hx.not_below hy))

/-! ## Rounding a quotient -/

/-- Parts make no number where the mantissa or the shift does not fit. -/
theorem ofParts?_eq_none_iff {negative : Bool} {m s : ℕ} : ofParts? negative m s = none ↔
    ¬ (m < 2 ^ 53 ∧ s ≤ 2045 ∧ (s = 0 ∨ 2 ^ 52 ≤ m)) := by
  unfold ofParts?
  split <;> simp_all

theorem of_ofParts? {negative : Bool} {m s : ℕ} {x : Binary64}
    (h : ofParts? negative m s = some x) :
    x.negative = negative ∧ x.mantissa = m ∧ x.shift = s := by
  unfold ofParts? at h
  split at h
  · cases h
    exact ⟨rfl, rfl, rfl⟩
  · cases h

/-- The shift for a size is the one of its grid. -/
theorem shiftOf_bounds (n : ℕ) :
    n < 2 ^ 53 * 2 ^ shiftOf n ∧ (shiftOf n = 0 ∨ 2 ^ 52 * 2 ^ shiftOf n ≤ n) := by
  rw [← pow_add, ← pow_add, shiftOf]
  refine ⟨lt_of_lt_of_le Nat.lt_log2_self (Nat.pow_le_pow_right two_pos (by omega)), ?_⟩
  rcases Nat.lt_or_ge n.log2 53 with small | large
  · exact Or.inl (by omega)
  · have exact : 52 + (n.log2 + 1 - 53) = n.log2 := by omega
    rw [exact]
    exact Or.inr (Nat.log2_self_le fun zero => by simp [zero] at large)

/-- Half way between the largest finite number and the first beyond, in units. -/
def bound : ℚ := (2 ^ 54 - 1) * 2 ^ 2044

/-- **The range ends halfway between the largest number and what would follow it.** -/
theorem bound_eq : bound = (2 ^ 53 - 1 / 2) * 2 ^ 2045 := by
  rw [bound, pow_succ (2 : ℚ) 2044]
  generalize (2 : ℚ) ^ 2044 = top
  ring

/-- A quotient is rounded on the grid of its size, which it may leave for the next one. -/
theorem nearest?_onGrid (negative : Bool) (n : ℕ) {d : ℕ} (hd : 0 < d) :
    ∃ s m : ℕ, HalfEven (n * unitsPerOne / d / 2 ^ s : ℚ) m ∧
      (n * unitsPerOne / d : ℚ) < 2 ^ 53 * 2 ^ s ∧
      (s = 0 ∨ (2 : ℚ) ^ 52 * 2 ^ s ≤ n * unitsPerOne / d) ∧
      nearest? negative n d =
        if m = 2 ^ 53 then ofParts? negative (2 ^ 52) (s + 1) else ofParts? negative m s := by
  have hd' : (0 : ℚ) < d := by exact_mod_cast hd
  have rounded := halfEven_roundDiv (n * unitsPerOne)
    (Nat.mul_pos hd (Nat.pow_pos two_pos : 0 < Nat.pow 2 (shiftOf (n * unitsPerOne / d))))
  obtain ⟨below, above⟩ := shiftOf_bounds (n * unitsPerOne / d)
  refine ⟨shiftOf (n * unitsPerOne / d), _, ?_, ?_, above.imp id fun above => ?_, rfl⟩
  · convert rounded using 1
    push_cast
    rw [div_div]
    rfl
  · rw [div_lt_iff₀ hd']
    exact_mod_cast (Nat.div_lt_iff_lt_mul hd).mp below
  · rw [le_div_iff₀ hd']
    exact_mod_cast (Nat.le_div_iff_mul_le hd).mp above

section

variable {negative : Bool} {n d : ℕ} (hd : 0 < d)

include hd

/-- **A quotient is rounded to the number closest to it**… -/
theorem closest_of_nearest? {x : Binary64} (h : nearest? negative n d = some x) :
    x.negative = negative ∧ Closest (n * unitsPerOne / d) x ∧
      (n * unitsPerOne / d : ℚ) < bound := by
  obtain ⟨s, m, rounded, below, large, onGrid⟩ := nearest?_onGrid negative n hd
  generalize (n * unitsPerOne / d : ℚ) = r at *
  have small (hs : s ≤ 2044) : r < bound := by
    calc r < 2 ^ 53 * 2 ^ s := below
      _ ≤ (2 ^ 54 - 1) * 2 ^ 2044 :=
        mul_le_mul (by norm_num) (pow_le_pow_right₀ one_le_two hs) (by positivity) (by norm_num)
  rw [onGrid] at h
  split_ifs at h with carried
  · obtain ⟨sign, mantissa, shift⟩ := of_ofParts? h
    have magnitude : (x.magnitude : ℚ) = m * 2 ^ s := by
      rw [cast_magnitude, mantissa, shift, carried, pow_succ]
      push_cast
      ring
    have even : Even x.mantissa := mantissa ▸ (Nat.even_pow.mpr ⟨even_two, by decide⟩)
    have shift_le := x.shift_le
    exact ⟨sign, closest_of_onGrid rounded large magnitude fun _ => even, small (by omega)⟩
  · obtain ⟨sign, rfl, rfl⟩ := of_ofParts? h
    refine ⟨sign, closest_of_onGrid rounded large x.cast_magnitude id, ?_⟩
    rcases Nat.lt_or_ge 2044 x.shift with last | hs
    · have shift : x.shift = 2045 := le_antisymm x.shift_le last
      rw [shift] at rounded
      rw [bound_eq, ← div_lt_iff₀ (by positivity)]
      exact rounded.lt_of_fits x.mantissa_lt
    · exact small hs

/-- …and there is none only beyond the largest finite number. -/
theorem bound_le_of_nearest? (h : nearest? negative n d = none) :
    bound ≤ (n * unitsPerOne / d : ℚ) := by
  obtain ⟨s, m, rounded, below, large, onGrid⟩ := nearest?_onGrid negative n hd
  generalize (n * unitsPerOne / d : ℚ) = r at *
  have pos : (0 : ℚ) < 2 ^ s := by positivity
  rw [onGrid] at h
  split_ifs at h with carried
  · have last : 2045 ≤ s := by
      have := ofParts?_eq_none_iff.mp h
      norm_num at this
      omega
    have within := (abs_le.mp rounded.within).2
    rw [carried] at within
    calc bound = (2 ^ 53 - 1 / 2) * 2 ^ 2045 := bound_eq
      _ ≤ (2 ^ 53 - 1 / 2) * 2 ^ s :=
        mul_le_mul_of_nonneg_left (pow_le_pow_right₀ one_le_two last) (by norm_num)
      _ ≤ r / 2 ^ s * 2 ^ s := by
        gcongr
        push_cast at within
        linarith
      _ = r := div_mul_cancel₀ _ pos.ne'
  · have fits : m < 2 ^ 53 := by
      refine lt_of_le_of_ne (rounded.ge_of_ge ?_) carried
      rw [div_le_iff₀ pos]
      exact_mod_cast below.le
    have canonical : s = 0 ∨ 2 ^ 52 ≤ m := large.imp id fun large => rounded.le_of_le <| by
      rw [le_div_iff₀ pos]
      exact_mod_cast large
    have beyond : 2046 ≤ s := by
      by_contra within
      exact ofParts?_eq_none_iff.mp h ⟨fits, by omega, canonical⟩
    calc bound ≤ 2 ^ 54 * 2 ^ 2044 := mul_le_mul_of_nonneg_right (by norm_num) (by positivity)
      _ = 2 ^ 52 * 2 ^ 2046 := by rw [← pow_add, ← pow_add]
      _ ≤ 2 ^ 52 * 2 ^ s :=
        mul_le_mul_of_nonneg_left (pow_le_pow_right₀ one_le_two beyond) (by norm_num)
      _ ≤ r := large.resolve_left (by omega)

end

end Binary64

end DocDispatch
