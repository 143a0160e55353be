import DocDispatch.Proofs.Binary64.Nearest

/-!
# Proofs/Binary64/Integers — integers among the numbers

Integers up to 2⁵³ are numbers (`exists_value_eq`), larger ones are rounded.  Rounding keeps the
order, so an integer whose two neighbours are numbers is compared exactly with every other integer
(`order_ofInt`), however far that one moves.
-/

namespace DocDispatch.Binary64

/-! ## Integers -/

/-- Digits that fit the mantissa can stand at every shift. -/
theorem exists_magnitude (negative : Bool) : ∀ {s m : ℕ}, s ≤ 2045 → m < 2 ^ 53 →
    ∃ x : Binary64, x.negative = negative ∧ (x.magnitude : ℚ) = m * 2 ^ s
  | 0, m, hs, hm => ⟨⟨negative, m, 0, hm, hs, Or.inl rfl⟩, rfl, cast_magnitude _⟩
  | s + 1, m, hs, hm => by
      rcases Nat.lt_or_ge m (2 ^ 52) with small | large
      · obtain ⟨x, sign, magnitude⟩ := exists_magnitude negative (s := s) (m := 2 * m) (by omega)
          (by omega)
        refine ⟨x, sign, magnitude.trans ?_⟩
        push_cast
        ring
      · exact ⟨⟨negative, m, s + 1, hm, hs, Or.inr large⟩, rfl, cast_magnitude _⟩

theorem signed_natAbs (n : ℤ) : signed (decide (n < 0)) n.natAbs = n := by
  have size : (n.natAbs : ℚ) = |(n : ℚ)| := by rw [Nat.cast_natAbs, Int.cast_abs]
  have side : decide (n < 0) = decide ((n : ℚ) < 0) := by simp
  rw [size, side, signed_neg_abs]

/-- **Integers up to 2⁵³ are numbers.** -/
theorem exists_value_eq {n : ℤ} (small : n.natAbs ≤ 2 ^ 53) : ∃ x : Binary64, x.value = n := by
  have exact : ∃ x : Binary64, x.negative = decide (n < 0) ∧
      (x.magnitude : ℚ) = n.natAbs * unitsPerOne := by
    rw [cast_unitsPerOne]
    rcases lt_or_eq_of_le small with below | last
    · exact exists_magnitude _ (by omega) below
    · obtain ⟨x, sign, magnitude⟩ := exists_magnitude (decide (n < 0)) (s := 1075) (m := 2 ^ 52)
        (by omega) (by omega)
      refine ⟨x, sign, magnitude.trans ?_⟩
      rw [last, Nat.cast_pow, Nat.cast_pow, Nat.cast_ofNat, ← pow_add, ← pow_add]
  obtain ⟨x, sign, magnitude⟩ := exact
  refine ⟨x, ?_⟩
  rw [value_eq, sign, magnitude, mul_div_cancel_right₀ _ unitsPerOne_pos.ne', signed_natAbs]

/-- **The number made of an integer is what the integer rounds to.** -/
theorem rounds_ofInt {n : ℤ} (inRange : |(n : ℚ)| < 2 ^ 1024 - 2 ^ 970) : Rounds n (ofInt n) := by
  have whole : (n.natAbs : ℚ) / (1 : ℕ) = n.natAbs := by rw [Nat.cast_one, div_one]
  unfold ofInt
  cases found : nearest? (n < 0) n.natAbs 1 with
  | none =>
    have beyond := (nearest?_eq_none_iff one_pos).mp found
    rw [whole, Nat.cast_natAbs, Int.cast_abs] at beyond
    exact absurd inRange (not_lt.mpr beyond)
  | some x =>
    obtain ⟨-, rounds⟩ := (nearest?_eq_some_iff one_pos).mp found
    rw [whole, signed_natAbs] at rounds
    exact rounds

/-- **A number that is an integer is the number made of it, but for the sign of zero.** -/
theorem ofInt_eq {x : Binary64} {n : ℤ} (same : x.value = n) (some : x.isZero = false) :
    ofInt n = x := by
  have own : Rounds n x := same ▸ rounds_value x
  exact (own.unique (rounds_ofInt own.inRange) some).symm

/-- **A number is an integer where its value is one.** -/
theorem toInt?_eq_some_iff {x : Binary64} {n : ℤ} : x.toInt? = some n ↔ x.value = n := by
  have units := unitsPerOne_pos
  have signs (k : ℤ) : (if x.negative then -k else k : ℤ) = n ↔ signed x.negative (k : ℚ) = n := by
    rw [signed, ← Int.cast_inj (α := ℚ)]
    split <;> simp
  rw [value_eq, toInt?]
  split
  next whole =>
    obtain ⟨k, hk⟩ := Nat.dvd_of_mod_eq_zero whole
    have exact : x.magnitude / unitsPerOne = k := by
      rw [hk, Nat.mul_div_cancel_left k (by exact_mod_cast units)]
    have exact' : (x.magnitude : ℚ) / unitsPerOne = k := by
      rw [hk, Nat.cast_mul, mul_div_cancel_left₀ _ units.ne']
    rw [exact, exact', Option.some.injEq, signs, Int.cast_natCast]
  next broken =>
    refine ⟨fun h => (Option.some_ne_none n h.symm).elim, fun same => (broken ?_).elim⟩
    have size := congrArg abs same
    rw [abs_signed, abs_of_nonneg (div_nonneg (Nat.cast_nonneg _) units.le),
      div_eq_iff units.ne', ← Int.cast_abs, ← Nat.cast_natAbs] at size
    have size : x.magnitude = n.natAbs * unitsPerOne := by exact_mod_cast size
    rw [size, Nat.mul_mod_left]

/-! ## Order -/

/-- Numbers are ordered by their units as by their values. -/
theorem units_lt_iff {x y : Binary64} : x.units < y.units ↔ x.value < y.value := by
  rw [value, value, div_lt_div_iff_of_pos_right unitsPerOne_pos, Int.cast_lt]

/-- **Order is the order of values**: below… -/
theorem order_eq_lt_iff {x y : Binary64} : x.order y = .lt ↔ x.value < y.value := by
  rw [order, compare_lt_iff_lt, units_lt_iff]

/-- …and above. -/
theorem order_eq_gt_iff {x y : Binary64} : x.order y = .gt ↔ y.value < x.value := by
  rw [order, compare_gt_iff_gt, units_lt_iff]

/-- **An integer with neighbours among the numbers is compared exactly**, whatever the other one is
rounded to. -/
theorem order_ofInt {m n : ℤ} (inRange : |(m : ℚ)| < 2 ^ 1024 - 2 ^ 970)
    (small : n.natAbs ≤ 2 ^ 53 - 1) : (ofInt m).order (ofInt n) = compare m n := by
  have rounds := rounds_ofInt inRange
  have exact {k : ℤ} (hk : k.natAbs ≤ 2 ^ 53) : ∃ x : Binary64, x.value = k ∧ Rounds k x := by
    obtain ⟨x, value⟩ := exists_value_eq hk
    exact ⟨x, value, value ▸ rounds_value x⟩
  obtain ⟨x, value, rounds_x⟩ := exact (k := n) (by omega)
  have own : (ofInt n).value = n := by
    rw [(rounds_ofInt rounds_x.inRange).value_eq rounds_x, value]
  rcases lt_trichotomy m n with below | same | above
  · obtain ⟨y, value, rounds_y⟩ := exact (k := n - 1) (by omega)
    have := rounds.le rounds_y (by exact_mod_cast Int.le_sub_one_of_lt below)
    rw [compare_lt_iff_lt.mpr below, order_eq_lt_iff, own]
    refine this.trans_lt ?_
    rw [value]
    exact_mod_cast sub_one_lt n
  · rw [same, order, compare_eq_iff_eq.mpr rfl, compare_eq_iff_eq.mpr rfl]
  · obtain ⟨y, value, rounds_y⟩ := exact (k := n + 1) (by omega)
    have := rounds_y.le rounds (by exact_mod_cast above)
    rw [compare_gt_iff_gt.mpr above, order_eq_gt_iff, own]
    refine lt_of_lt_of_le ?_ this
    rw [value]
    exact_mod_cast lt_add_one n

end DocDispatch.Binary64
