import TypeCoverage.Proofs.Decimal.Grid

/-!
# Rounding keeps the order

Of two quotients the larger one has the larger digits in a context, or the same
(`Context.nearest_mono`).  Where both have the same exponent they are rounded on one grid, and
where the exponents differ there is a power of ten between them that belongs to both grids.
Rounding changes a quotient by at most a fixed part of itself (`Context.nearest_relative`), or
by very little (`Context.nearest_finest`).
-/

namespace TypeCoverage.Decimal

/-- A larger number is rounded to a larger integer, or to the same. -/
theorem Scaled.round_mono {x y : Scaled} (le : x.value ≤ y.value) :
  x.round ≤ y.round
  := by
  cases reached : x.round with
  | zero => apply Nat.zero_le
  | succ m =>
    rw [Scaled.succ_le_round_iff]
    apply le_trans _ le
    rw [← Scaled.succ_le_round_iff, reached]

theorem Scaled.value_nonneg (x : Scaled) :
  0 ≤ x.value
  := by
  rw [value]
  positivity

/-! ### Leading digits -/

namespace Context

variable {c : Context}

section

variable {n₁ d₁ n₂ d₂ : ℕ} (some₁ : 0 < d₁) (some₂ : 0 < d₂) (le : (n₁ / d₁ : ℚ) ≤ n₂ / d₂)

include some₁ some₂ le

theorem exponent_mono (more₁ : 0 < n₁) (more₂ : 0 < n₂) :
  c.exponent n₁ d₁ ≤ c.exponent n₂ d₂
  := by
  obtain ⟨-, below⟩ := leadingExponent_spec c.precision more₂ some₂
  have decade := leadingExponent_lt c.precision more₁ some₁ (le.trans_lt below)
  rw [exponent, exponent]
  omega

/-- Rounding within a context keeps the order of quotients. -/
theorem nearest_mono :
  (c.nearest n₁ d₁).value ≤ (c.nearest n₂ d₂).value
  := by
  obtain rfl | more₁ := Nat.eq_zero_or_pos n₁
  · rw [nearest_zero, Scaled.value, Nat.cast_zero, zero_mul]
    apply Scaled.value_nonneg
  have some₁' : (0 : ℚ) < d₁ := Nat.cast_pos.mpr some₁
  have some₂' : (0 : ℚ) < d₂ := Nat.cast_pos.mpr some₂
  have more₂ : 0 < n₂ := by
    have positive : (0 : ℚ) < n₂ / d₂ := lt_of_lt_of_le (by positivity) le
    rw [div_pos_iff_of_pos_right some₂'] at positive
    exact_mod_cast positive
  obtain less | same := (exponent_mono (c := c) some₁ some₂ le more₁ more₂).lt_or_eq
  · -- The wider grid is that of all digits, and a power of ten stands between the decades.
    have wider := (c.finest_le_exponent n₁ d₁).trans_lt less
    have normal : c.exponent n₂ d₂ = leadingExponent c.precision n₂ d₂ := by
      rw [exponent] at wider ⊢
      omega
    calc (c.nearest n₁ d₁).value
        ≤ 10 ^ (c.exponent n₁ d₁ + c.precision) := nearest_le_decade more₁ some₁
      _ ≤ 10 ^ (c.exponent n₂ d₂ + c.precision - 1) :=
          zpow_le_zpow_right₀ (by norm_num) (by omega)
      _ ≤ (c.nearest n₂ d₂).value := decade_le_nearest more₂ some₂ normal
  · rw [c.value_nearest d₁ more₁, c.value_nearest d₂ more₂, same]
    apply mul_le_mul_of_nonneg_right _ (by positivity)
    have positive₁ := quotientAt_pos some₁ n₁ (c.exponent n₂ d₂)
    have positive₂ := quotientAt_pos some₂ n₂ (c.exponent n₂ d₂)
    apply Nat.cast_le.mpr
    apply roundQuotient_mono positive₁ positive₂
    rw [← Nat.cast_le (α := ℚ), Nat.cast_mul, Nat.cast_mul,
      ← div_le_div_iff₀ (Nat.cast_pos.mpr positive₁) (Nat.cast_pos.mpr positive₂),
      quotientAt_ratio, quotientAt_ratio]
    apply div_le_div_of_nonneg_right le (by positivity)

end

section

variable {num den : ℕ} (some_num : 0 < num) (some_den : 0 < den)

include some_num some_den

/-- With all digits, a quotient is changed by at most half a unit of the last of them, counted
in the quotient itself. -/
theorem nearest_relative
    (normal : c.exponent num den = leadingExponent c.precision num den) :
  |(c.nearest num den).value - num / den| ≤ num / den * 10 ^ (1 - c.precision : ℤ) / 2
  := by
  obtain ⟨above, -⟩ := leadingExponent_spec c.precision some_num some_den
  apply (nearest_near some_num some_den).trans
  apply div_le_div_of_nonneg_right _ (by norm_num)
  rw [normal]
  calc (10 : ℚ) ^ leadingExponent c.precision num den
      = 10 ^ (leadingExponent c.precision num den + c.precision - 1) *
          10 ^ (1 - c.precision : ℤ) := by
        rw [← zpow_add₀ (by norm_num)]
        congr 1
        ring
    _ ≤ num / den * 10 ^ (1 - c.precision : ℤ) :=
        mul_le_mul_of_nonneg_right above (by positivity)

/-- Else it is changed by at most half a step of the finest grid. -/
theorem nearest_finest
    (tiny : c.exponent num den ≠ leadingExponent c.precision num den) :
  |(c.nearest num den).value - num / den| ≤ 10 ^ c.finest / 2
  := by
  have finest : c.exponent num den = c.finest := by
    rw [exponent] at tiny ⊢
    omega
  rw [← finest]
  apply nearest_near some_num some_den

end

end Context

end TypeCoverage.Decimal
