import TypeCoverage.Proofs.Decimal.Monotone

/-!
# Numbers that are too large

A scaled number lies between the powers of ten at its first digit (`Scaled.leading_spec`).
So rounding within a context has no result exactly if it reaches the power of ten above the
greatest exponent (`Context.round?_eq_none_iff`).  A quotient reaches it from half a step
below: the coefficient before it is odd, and half-way values go to the even one
(`Context.reaches_end_iff`).
-/

namespace TypeCoverage.Decimal

theorem Scaled.leading_spec {x : Scaled} (some : 0 < x.coefficient) :
  (10 : ℚ) ^ x.leading ≤ x.value ∧ x.value < 10 ^ (x.leading + 1)
  := by
  obtain ⟨above, below⟩ := digitCount_spec some
  have first : x.leading = (digitCount x.coefficient - 1 : ℤ) + x.exponent := by
    rw [leading]
    omega
  have next : x.leading + 1 = (digitCount x.coefficient : ℤ) + x.exponent := by
    rw [leading]
    omega
  rw [next, first, value, zpow_add₀ (by norm_num), zpow_add₀ (by norm_num)]
  constructor
  · apply mul_le_mul_of_nonneg_right above (by positivity)
  · apply mul_lt_mul_of_pos_right below (by positivity)

theorem digitCount_zero :
  digitCount 0 = 1
  := by
  unfold digitCount
  rfl

namespace Context

variable {c : Context} {num den : ℕ}

/-- A number that is rounded to zero has no great exponent. -/
theorem leading_le_of_zero (some_den : 0 < den)
    (zero : (c.nearest num den).coefficient = 0) :
  (c.nearest num den).leading ≤ c.greatest
  := by
  have greatest := c.greatest_nonneg
  obtain rfl | some_num := Nat.eq_zero_or_pos num
  · have one : (⟨0, 0⟩ : Scaled).leading = 0 := by simp [Scaled.leading, digitCount_zero]
    rw [nearest_zero, one]
    exact greatest
  · have finest : c.exponent num den = c.finest := by
      by_contra other
      -- On a wider grid the coefficient has all its digits.
      have normal : c.exponent num den = leadingExponent c.precision num den := by
        rw [exponent] at other ⊢
        omega
      have positive := (zpow_pos (by norm_num) _).trans_le
        (decade_le_nearest some_num some_den normal)
      rw [Scaled.value, zero, Nat.cast_zero, zero_mul] at positive
      apply lt_irrefl _ positive
    have same : (c.nearest num den).exponent = c.finest := by
      rw [← finest, nearest, if_neg some_num.ne']
    have small := c.finest_nonpos
    rw [Scaled.leading, zero, same, digitCount_zero]
    omega

/-- Rounding has no result if it reaches the power of ten above the greatest exponent. -/
theorem round?_eq_none_iff (some_den : 0 < den) :
  c.round? num den = none ↔ (10 : ℚ) ^ (c.greatest + 1) ≤ (c.nearest num den).value
  := by
  have large : c.round? num den = none ↔ c.greatest < (c.nearest num den).leading := by
    simp [round?]
  rw [large]
  obtain zero | some := Nat.eq_zero_or_pos (c.nearest num den).coefficient
  · have nothing : (c.nearest num den).value = 0 := by
      rw [Scaled.value, zero, Nat.cast_zero, zero_mul]
    rw [nothing]
    exact iff_of_false (not_lt.mpr (leading_le_of_zero some_den zero))
      (not_le.mpr (by positivity))
  · obtain ⟨above, below⟩ := Scaled.leading_spec some
    constructor
    · intro beyond
      apply le_trans _ above
      apply zpow_le_zpow_right₀ (by norm_num) beyond
    · intro reached
      have order := (zpow_lt_zpow_iff_right₀ (by norm_num)).mp (reached.trans_lt below)
      omega

theorem round?_eq_some (some_den : 0 < den)
    (fits : (c.nearest num den).value < 10 ^ (c.greatest + 1)) :
  c.round? num den = some (c.nearest num den)
  := by
  cases result : c.round? num den with
  | none =>
    rw [round?_eq_none_iff some_den] at result
    exact absurd result (not_le.mpr fits)
  | some x =>
    rw [round?] at result
    split at result
    · cases result
    · exact congrArg _ (Option.some.inj result).symm

section

variable (some_num : 0 < num) (some_den : 0 < den)

include some_num some_den

/-- The coefficient before the end of the widest grid is odd, so that the end is reached from
half-way on. -/
theorem reaches_end_of_last {last : ℤ} (same : c.exponent num den = last) :
  (10 : ℚ) ^ (last + c.precision) ≤ (c.nearest num den).value ↔
    (10 : ℚ) ^ (last + c.precision) ≤ num / den + 10 ^ last / 2
  := by
  obtain ⟨m, full⟩ : ∃ m, 10 ^ c.precision = m + 1 :=
    Nat.exists_eq_add_one_of_ne_zero (by positivity)
  have odd : m % 2 = 1 := by
    obtain ⟨k, more⟩ := Nat.exists_eq_add_one_of_ne_zero c.precision_pos.ne'
    rw [more, pow_succ] at full
    omega
  have step_pos : (0 : ℚ) < 10 ^ last := by positivity
  have positive := quotientAt_pos some_den num last
  have positive' : (0 : ℚ) < (quotientAt num den last).2 := Nat.cast_pos.mpr positive
  have reached : (2 * m + 1) * (quotientAt num den last).2 ≤ 2 * (quotientAt num den last).1 ↔
      ((2 * m + 1) / 2 : ℚ) ≤ num / den / 10 ^ last := by
    rw [← quotientAt_ratio, div_le_div_iff₀ (by norm_num) positive', ← Nat.cast_le (α := ℚ)]
    push_cast
    rw [mul_comm (2 : ℚ) ((quotientAt num den last).1 : ℚ)]
  rw [point_of_decade, full, c.value_nearest den some_num, same, mul_le_mul_iff_left₀ step_pos,
    Nat.cast_le, succ_le_roundQuotient_iff positive odd, reached, le_div_iff₀ step_pos]
  push_cast
  constructor <;> intro <;> linarith

/-- The least quotient that reaches the power of ten above the greatest exponent lies half a
step below it. -/
theorem reaches_end_iff :
  (10 : ℚ) ^ (c.greatest + 1) ≤ (c.nearest num den).value ↔
    (10 : ℚ) ^ (c.greatest + 1) ≤ num / den + 10 ^ (c.greatest + 1 - c.precision) / 2
  := by
  have digits := c.precision_pos
  have least := c.least_nonpos
  have greatest := c.greatest_nonneg
  set last := c.greatest + 1 - c.precision with same_last
  have top : c.greatest + 1 = last + c.precision := by omega
  obtain ⟨above, below⟩ := leadingExponent_spec c.precision some_num some_den
  have leading := c.leadingExponent_le_exponent num den
  by_cases beyond : (10 : ℚ) ^ (c.greatest + 1) ≤ num / den
  · have normal := c.exponent_eq_of_le some_num some_den beyond (by omega)
    have order := (zpow_lt_zpow_iff_right₀ (by norm_num)).mp (beyond.trans_lt below)
    apply iff_of_true
    · apply le_trans _ (decade_le_nearest some_num some_den normal)
      apply zpow_le_zpow_right₀ (by norm_num)
      omega
    · have step_pos : (0 : ℚ) < 10 ^ last := by positivity
      linarith
  · have decade := c.exponent_lt some_num some_den (not_le.mp beyond) (by omega)
    obtain finer | same : c.exponent num den < last ∨ c.exponent num den = last := by omega
    · -- On a finer grid, both the quotient and what it is rounded to are far below the end.
      have tenth : (10 : ℚ) ^ (c.greatest + 1) = 10 ^ c.greatest * 10 :=
        zpow_add_one₀ (by norm_num) _
      have first_pos : (0 : ℚ) < 10 ^ c.greatest := by positivity
      have rounded : (c.nearest num den).value ≤ 10 ^ c.greatest :=
        (nearest_le_decade some_num some_den).trans
          (zpow_le_zpow_right₀ (by norm_num) (by omega))
      have quotient : (num / den : ℚ) ≤ 10 ^ c.greatest :=
        below.le.trans (zpow_le_zpow_right₀ (by norm_num) (by omega))
      have step : (10 : ℚ) ^ last ≤ 10 ^ c.greatest :=
        zpow_le_zpow_right₀ (by norm_num) (by omega)
      exact iff_of_false (by linarith) (by linarith)
    · rw [top]
      apply reaches_end_of_last some_num some_den same

end

end Context

end TypeCoverage.Decimal
