import DocDispatch.Proofs.Binary64.Grid

/-!
# Proofs/Binary64/Nearest — rounding goes to the nearest number

    quotient  ──units──▸  its grid  ──half even──▸  mantissa, shift
        ╰───────────────────── Rounds ───────────────────▸ number

A rational rounds to the number nearest to it, of two nearest ones to the one with the even
mantissa, unless it lies beyond the range (`Rounds`).  That is one number (`Rounds.value_eq`), it is
what is computed for a quotient (`nearest?_eq_some_iff`), and that numbers round to themselves and
that rounding keeps the order follows from what it means to be nearest.
-/

namespace DocDispatch.Binary64

/-! ## Rationals -/

theorem cast_pow_two (k : ℕ) : ((Nat.pow 2 k : ℕ) : ℚ) = 2 ^ k := by
  rw [Nat.pow_eq, Nat.cast_pow, Nat.cast_ofNat]

/-- **A unit is 2⁻¹⁰⁷⁴, the least magnitude.** -/
theorem cast_unitsPerOne : (unitsPerOne : ℚ) = 2 ^ 1074 := by
  delta unitsPerOne
  generalize 1074 = k
  exact cast_pow_two k

theorem unitsPerOne_pos : (0 : ℚ) < unitsPerOne := cast_unitsPerOne ▸ pow_pos two_pos _

/-- The number as a rational. -/
def value (x : Binary64) : ℚ := x.units / unitsPerOne

/-- A rational with a sign put before it. -/
def signed (negative : Bool) (q : ℚ) : ℚ := if negative then -q else q

theorem abs_signed (negative : Bool) (q : ℚ) : |signed negative q| = |q| := by
  cases negative <;> simp [signed]

theorem abs_signed_sub (negative : Bool) (p q : ℚ) :
    |signed negative p - signed negative q| = |p - q| := by
  cases negative
  · rfl
  · exact (abs_sub_comm _ _).trans (by congr 1; simp [signed]; ring)

theorem signed_neg_abs (q : ℚ) : signed (decide (q < 0)) |q| = q := by
  rcases lt_or_ge q 0 with negative | nonneg
  · simp [signed, negative, abs_of_neg negative]
  · simp [signed, not_lt.mpr nonneg, abs_of_nonneg nonneg]

/-- **The value of a number is its magnitude, in units and with its sign.** -/
theorem value_eq (x : Binary64) : x.value = signed x.negative (x.magnitude / unitsPerOne) := by
  rw [value, units, signed]
  split
  · rw [Int.cast_neg, Int.cast_natCast, neg_div]
  · rw [Int.cast_natCast]

/-- …so the sign is all that the magnitude leaves out. -/
theorem abs_value (x : Binary64) : |x.value| = x.magnitude / unitsPerOne := by
  rw [value_eq, abs_signed, abs_of_nonneg (div_nonneg (Nat.cast_nonneg _) unitsPerOne_pos.le)]

theorem magnitude_eq_iff {x y : Binary64} : x.magnitude = y.magnitude ↔ |x.value| = |y.value| := by
  rw [abs_value, abs_value, div_left_inj' unitsPerOne_pos.ne', Nat.cast_inj]

/-- **A number is its value and its sign**; the sign tells the two zeros apart. -/
theorem eq_of_value {x y : Binary64} (sign : x.negative = y.negative) (same : x.value = y.value) :
    x = y :=
  eq_of_magnitude sign (magnitude_eq_iff.mpr (congrArg _ same))

theorem value_zero : zero.value = 0 := by
  have nothing : zero.magnitude = 0 := Nat.zero_mul _
  rw [value_eq, nothing, Nat.cast_zero, zero_div]
  rfl

/-- **The number is the rational rounded**: it is nearest, and of two nearest numbers the one with
the even mantissa.  Half way between the largest finite number and 2¹⁰²⁴ the range ends. -/
structure Rounds (q : ℚ) (x : Binary64) : Prop where
  inRange : |q| < 2 ^ 1024 - 2 ^ 970
  nearest (y : Binary64) : |x.value - q| ≤ |y.value - q|
  toEven (y : Binary64) : y.value ≠ x.value → |x.value - q| = |y.value - q| → Even x.mantissa

/-- A value is in range where its units are. -/
theorem inRange_iff {q : ℚ} : q < 2 ^ 1024 - 2 ^ 970 ↔ q * unitsPerOne < bound := by
  have scaled : (2 ^ 1024 - 2 ^ 970 : ℚ) * unitsPerOne = bound := by
    rw [bound, cast_unitsPerOne, sub_mul, sub_mul, one_mul, ← pow_add, ← pow_add, ← pow_add]
  rw [← scaled, mul_lt_mul_iff_left₀ unitsPerOne_pos]

theorem inRange_of_lt {q : ℚ} (h : q < 2 ^ 970) : q < 2 ^ 1024 - 2 ^ 970 := by
  have pos : (0 : ℚ) < 2 ^ 970 := by positivity
  calc q < 2 ^ 970 := h
    _ ≤ (2 ^ 54 - 1) * 2 ^ 970 := le_mul_of_one_le_left pos.le (by norm_num)
    _ = 2 ^ 1024 - 2 ^ 970 := by rw [sub_mul, one_mul, ← pow_add]

/-- Two numbers of one magnitude that are equally near, and not farther than zero, are one. -/
theorem value_eq_of_tie {q : ℚ} {x y : Binary64} (near : |x.value - q| ≤ |zero.value - q|)
    (same : x.magnitude = y.magnitude) (tie : |x.value - q| = |y.value - q|) :
    y.value = x.value := by
  rw [value_zero] at near
  have same := magnitude_eq_iff.mp same
  grind

/-- **What is closest in units is what the value rounds to.** -/
theorem rounds_of_closest {r : ℚ} (pos : 0 ≤ r) (inRange : r < bound) {x : Binary64}
    (closest : Closest r x) : Rounds (signed x.negative (r / unitsPerOne)) x := by
  have units := unitsPerOne_pos
  have size : |signed x.negative (r / unitsPerOne)| = r / unitsPerOne := by
    rw [abs_signed, abs_of_nonneg (div_nonneg pos units.le)]
  have own : |x.value - signed x.negative (r / unitsPerOne)| =
      |(x.magnitude : ℚ) - r| / unitsPerOne := by
    rw [value_eq, abs_signed_sub, ← sub_div, abs_div, abs_of_pos units]
  have others (y : Binary64) : |(y.magnitude : ℚ) - r| / unitsPerOne ≤
      |y.value - signed x.negative (r / unitsPerOne)| := by
    have := abs_abs_sub_abs_le y.value (signed x.negative (r / unitsPerOne))
    rw [abs_value, size, ← sub_div, abs_div, abs_of_pos units] at this
    exact this
  have nearest (y : Binary64) : |x.value - signed x.negative (r / unitsPerOne)| ≤
      |y.value - signed x.negative (r / unitsPerOne)| := by
    rw [own]
    exact (div_le_div_of_nonneg_right (closest.near y) units.le).trans (others y)
  refine ⟨?_, nearest, fun y other tie => ?_⟩
  · rw [size, inRange_iff, div_mul_cancel₀ _ units.ne']
    exact inRange
  · have different : y.magnitude ≠ x.magnitude := fun same =>
      other (value_eq_of_tie (nearest zero) same.symm tie)
    refine closest.even y different (le_antisymm (closest.near y) ?_)
    have := others y
    rw [← tie, own, div_le_div_iff_of_pos_right units] at this
    exact this

/-- …and what a value rounds to is closest in units. -/
theorem Rounds.closest {q : ℚ} {x : Binary64} (h : Rounds q x) : Closest (|q| * unitsPerOne) x := by
  have units := unitsPerOne_pos
  have distance (y : Binary64) : |(y.magnitude : ℚ) - |q| * unitsPerOne| =
      |(|y.value| - |q|)| * unitsPerOne := by
    calc |(y.magnitude : ℚ) - |q| * unitsPerOne|
        = |(|y.value| - |q|) * unitsPerOne| := by
          rw [sub_mul, abs_value, div_mul_cancel₀ _ units.ne']
      _ = |(|y.value| - |q|)| * unitsPerOne := by rw [abs_mul, abs_of_pos units]
  -- every magnitude is there with the sign of `q`
  have exists_toward (y : Binary64) :
      ∃ z : Binary64, |z.value| = |y.value| ∧ |z.value - q| = |(|y.value| - |q|)| := by
    let z : Binary64 := { y with negative := decide (q < 0) }
    have size : |z.value| = |y.value| := magnitude_eq_iff.mp rfl
    have sign : z.value = signed (decide (q < 0)) |y.value| := by
      rw [← size, abs_value]
      exact z.value_eq
    refine ⟨z, size, ?_⟩
    have apart := abs_signed_sub (decide (q < 0)) |y.value| |q|
    rwa [signed_neg_abs, ← sign] at apart
  have own : |(|x.value| - |q|)| = |x.value - q| := by
    obtain ⟨z, -, toward⟩ := exists_toward x
    exact le_antisymm (abs_abs_sub_abs_le _ _) (toward ▸ h.nearest z)
  constructor
  · intro y
    obtain ⟨z, -, toward⟩ := exists_toward y
    rw [distance, distance, own, ← toward]
    exact mul_le_mul_of_nonneg_right (h.nearest z) units.le
  · intro y other tie
    obtain ⟨z, size, toward⟩ := exists_toward y
    rw [distance, distance, own, ← toward] at tie
    refine h.toEven z (fun same => other ?_) (mul_right_cancel₀ units.ne' tie)
    rw [magnitude_eq_iff, ← size, same]

/-- **What a rational rounds to is one number.** -/
theorem Rounds.value_eq {q : ℚ} {x y : Binary64} (hx : Rounds q x) (hy : Rounds q y) :
    x.value = y.value :=
  value_eq_of_tie (hy.nearest zero) (hy.closest.magnitude_eq hx.closest)
    (le_antisymm (hy.nearest x) (hx.nearest y))

section

variable {negative : Bool} {n d : ℕ} (hd : 0 < d)

include hd

/-- **A fraction has no nearest number only out of range.** -/
theorem nearest?_eq_none_iff :
    nearest? negative n d = none ↔ (2 : ℚ) ^ 1024 - 2 ^ 970 ≤ n / d := by
  rw [← not_lt, inRange_iff, div_mul_eq_mul_div, not_lt]
  constructor
  · exact bound_le_of_nearest? hd
  · intro beyond
    by_contra found
    obtain ⟨x, h⟩ := Option.ne_none_iff_exists'.mp found
    exact absurd (closest_of_nearest? hd h).2.2 (not_lt.mpr beyond)

/-- **The nearest number to a quotient is what it rounds to**, with the sign. -/
theorem nearest?_eq_some_iff {x : Binary64} :
    nearest? negative n d = some x ↔
      x.negative = negative ∧ Rounds (signed negative (n / d)) x := by
  have sound {x : Binary64} (h : nearest? negative n d = some x) :
      x.negative = negative ∧ Rounds (signed negative (n / d)) x := by
    obtain ⟨sign, closest, inRange⟩ := closest_of_nearest? hd h
    have rounds := rounds_of_closest
      (div_nonneg (mul_nonneg (Nat.cast_nonneg _) unitsPerOne_pos.le) (Nat.cast_nonneg _))
      inRange closest
    rw [sign, div_right_comm, mul_div_cancel_right₀ _ unitsPerOne_pos.ne'] at rounds
    exact ⟨sign, rounds⟩
  refine ⟨sound, fun ⟨sign, rounds⟩ => ?_⟩
  cases found : nearest? negative n d with
  | none =>
    have := rounds.inRange
    rw [abs_signed, abs_of_nonneg (by positivity)] at this
    exact absurd this (not_lt.mpr ((nearest?_eq_none_iff hd).mp found))
  | some y =>
    obtain ⟨sign', rounds'⟩ := sound found
    rw [eq_of_value (sign'.trans sign.symm) (rounds'.value_eq rounds)]

end

/-! ## Consequences -/

/-- **A number rounds to itself.** -/
theorem rounds_value (x : Binary64) : Rounds x.value x := by
  refine ⟨?_, fun y => by simp, fun y other tie => absurd ?_ other⟩
  · rw [abs_value, inRange_iff, div_mul_cancel₀ _ unitsPerOne_pos.ne', cast_magnitude, bound_eq]
    have mantissa : (x.mantissa : ℚ) + 1 ≤ 2 ^ 53 := by exact_mod_cast x.mantissa_lt
    calc (x.mantissa : ℚ) * 2 ^ x.shift
        ≤ x.mantissa * 2 ^ 2045 :=
          mul_le_mul_of_nonneg_left (pow_le_pow_right₀ one_le_two x.shift_le) (Nat.cast_nonneg _)
      _ < (2 ^ 53 - 1 / 2) * 2 ^ 2045 := mul_lt_mul_of_pos_right (by linarith) (by positivity)
  · rw [sub_self, abs_zero, eq_comm, abs_eq_zero, sub_eq_zero] at tie
    exact tie

/-- **Rounding keeps the order.** -/
theorem Rounds.le {p q : ℚ} {x y : Binary64} (hx : Rounds p x) (hy : Rounds q y) (h : p ≤ q) :
    x.value ≤ y.value := by
  by_contra above
  have near := hx.nearest y
  have near' := hy.nearest x
  -- otherwise both are nearest to the one rational in the middle
  have same : p = q := by grind
  exact above (hx.value_eq (same ▸ hy)).le

theorem isZero_iff_magnitude {x : Binary64} : x.isZero = true ↔ x.magnitude = 0 := by
  rw [isZero, beq_iff_eq, magnitude, Nat.mul_eq_zero]
  exact (or_iff_left (Nat.pow_pos two_pos).ne').symm

/-- **A number is a zero, of either sign, where its value is zero.** -/
theorem isZero_iff_value {x : Binary64} : x.isZero = true ↔ x.value = 0 := by
  rw [isZero_iff_magnitude, ← abs_eq_zero, abs_value, div_eq_zero_iff,
    or_iff_left unitsPerOne_pos.ne', Nat.cast_eq_zero]

/-- There is a number one unit above zero. -/
theorem exists_least : ∃ x : Binary64, x.magnitude = 1 :=
  ⟨⟨false, 1, 0, by decide, by decide, Or.inl rfl⟩, rfl⟩

/-- No magnitude is closer than zero to what is at most half a unit… -/
theorem closest_zero {r : ℚ} (pos : 0 ≤ r) (small : r ≤ 1 / 2) : Closest r zero := by
  have nothing : zero.magnitude = 0 := rfl
  refine ⟨fun y => ?_, fun _ _ _ => Even.zero⟩
  rw [nothing, Nat.cast_zero, zero_sub, abs_neg, abs_of_nonneg pos]
  rcases Nat.eq_zero_or_pos y.magnitude with none | some
  · rw [none, Nat.cast_zero, zero_sub, abs_neg]
    exact le_abs_self r
  · have : (1 : ℚ) ≤ y.magnitude := by exact_mod_cast some
    rw [abs_of_nonneg (by linarith)]
    linarith

/-- …and nothing else has zero as its closest. -/
theorem Closest.le_half {r : ℚ} {x : Binary64} (h : Closest r x) (nothing : x.magnitude = 0) :
    r ≤ 1 / 2 := by
  obtain ⟨least, one⟩ := exists_least
  have near := h.near least
  rw [nothing, one] at near
  grind

/-- **Up to half a unit there is nothing but zero.** -/
theorem Rounds.isZero_iff {q : ℚ} {x : Binary64} (h : Rounds q x) :
    x.isZero = true ↔ |q| ≤ 1 / 2 ^ 1075 := by
  have half : |q| ≤ 1 / 2 ^ 1075 ↔ |q| * unitsPerOne ≤ 1 / 2 := by
    rw [cast_unitsPerOne, ← le_div_iff₀ (by positivity), div_div, ← pow_succ']
  rw [isZero_iff_magnitude, half]
  refine ⟨h.closest.le_half, fun small => ?_⟩
  exact h.closest.magnitude_eq
    (closest_zero (mul_nonneg (abs_nonneg q) unitsPerOne_pos.le) small)

/-- **A quotient of up to half a unit rounds to the zero of its sign.** -/
theorem nearest?_of_small {negative : Bool} {n d : ℕ} (hd : 0 < d)
    (small : (n : ℚ) / d ≤ 1 / 2 ^ 1075) : nearest? negative n d = ofParts? negative 0 0 := by
  have inRange : (n : ℚ) / d < 2 ^ 1024 - 2 ^ 970 := by
    refine inRange_of_lt (small.trans_lt ?_)
    calc (1 : ℚ) / 2 ^ 1075
        < 1 := (div_lt_one (by positivity)).mpr (one_lt_pow₀ one_lt_two (by simp))
      _ ≤ 2 ^ 970 := one_le_pow₀ one_le_two
  cases found : nearest? negative n d with
  | none => exact absurd inRange (not_lt.mpr ((nearest?_eq_none_iff hd).mp found))
  | some x =>
    obtain ⟨sign, rounds⟩ := (nearest?_eq_some_iff hd).mp found
    have nothing : x.isZero = true := rounds.isZero_iff.mpr <| by
      rw [abs_signed, abs_of_nonneg (by positivity)]
      exact small
    refine congrArg some (eq_of_magnitude sign ?_)
    exact (isZero_iff_magnitude.mp nothing).trans (Nat.zero_mul _).symm

/-! ## Any rational -/

/-- **Every rational in range rounds to some number.** -/
theorem exists_rounds {q : ℚ} (inRange : |q| < 2 ^ 1024 - 2 ^ 970) : ∃ x, Rounds q x := by
  have parts : (q.num.natAbs : ℚ) / q.den = |q| := by
    rw [Nat.cast_natAbs, Int.cast_abs, ← abs_of_pos (Nat.cast_pos.mpr q.pos : (0 : ℚ) < q.den),
      ← abs_div, Rat.num_div_den]
  cases found : nearest? (decide (q < 0)) q.num.natAbs q.den with
  | none =>
    have beyond := (nearest?_eq_none_iff q.pos).mp found
    rw [parts] at beyond
    exact absurd inRange (not_lt.mpr beyond)
  | some x =>
    obtain ⟨-, rounds⟩ := (nearest?_eq_some_iff q.pos).mp found
    rw [parts, signed_neg_abs] at rounds
    exact ⟨x, rounds⟩

/-- The sign of a number that is no zero is that of its value. -/
theorem negative_iff {x : Binary64} (some : x.isZero = false) :
    x.negative = true ↔ x.value < 0 := by
  have size : 0 < (x.magnitude : ℚ) / unitsPerOne := by
    refine div_pos (Nat.cast_pos.mpr (Nat.pos_of_ne_zero fun nothing => ?_)) unitsPerOne_pos
    simp [isZero_iff_magnitude.mpr nothing] at some
  rw [value_eq, signed]
  generalize (x.magnitude : ℚ) / unitsPerOne = a at *
  split <;> simp_all [size.le]

/-- **What is not zero has the sign of what it was rounded from.** -/
theorem Rounds.negative_eq {negative : Bool} {a : ℚ} (pos : 0 ≤ a) {x : Binary64}
    (h : Rounds (signed negative a) x) (some : x.isZero = false) : x.negative = negative := by
  have zero : Rounds 0 Binary64.zero := value_zero ▸ rounds_value Binary64.zero
  rw [Bool.eq_iff_iff, negative_iff some]
  cases negative with
  | false =>
    have above : Binary64.zero.value ≤ x.value := zero.le h pos
    rw [value_zero] at above
    simpa using above
  | true =>
    have below : x.value ≤ Binary64.zero.value := h.le zero (neg_nonpos.mpr pos)
    have different : x.value ≠ 0 := fun nothing => by
      simp [isZero_iff_value.mpr nothing] at some
    rw [value_zero] at below
    simpa using lt_of_le_of_ne below different

/-- **What a rational rounds to is one number** altogether, unless that is a zero of either sign. -/
theorem Rounds.unique {q : ℚ} {x y : Binary64} (hx : Rounds q x) (hy : Rounds q y)
    (some : x.isZero = false) : x = y := by
  have value := hx.value_eq hy
  have some' : y.isZero = false := by
    rw [← some, Bool.eq_iff_iff, isZero_iff_value, isZero_iff_value, value]
  exact eq_of_value (by rw [Bool.eq_iff_iff, negative_iff some, negative_iff some', value]) value

end DocDispatch.Binary64
