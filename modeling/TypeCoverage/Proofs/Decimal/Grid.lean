import Mathlib.Algebra.Order.Field.Power
import Mathlib.Algebra.Order.Field.Rat
import Mathlib.Tactic.FieldSimp
import Mathlib.Tactic.Linarith
import Mathlib.Tactic.Positivity
import Mathlib.Tactic.Ring
import TypeCoverage.Proofs.Decimal.Rounding

/-!
# The grid of the leading digits

A scaled number has a value (`Scaled.value`).  The multiples of a power of ten form a grid,
and the leading digits of a quotient are a point of the grid whose step belongs to the
`leadingExponent` of the quotient (`leadingExponent_spec`).  A context has a finest grid, on
which a quotient is rounded that is too small for all of the digits.  Rounding moves a quotient
by at most half a step (`Context.nearest_near`), never past a point of the grid
(`Context.le_nearest`, `Context.nearest_le_point`) and so never out of its decade
(`Context.decade_le_nearest`, `Context.nearest_le_decade`).
-/

namespace TypeCoverage.Decimal

/-- The rational number that a scaled number stands for. -/
def Scaled.value (x : Scaled) : ℚ := x.coefficient * 10 ^ x.exponent

theorem cast_tenTo (n : ℕ) :
  (tenTo n : ℚ) = 10 ^ n
  := by
  rw [tenTo, Nat.pow_eq]
  apply Nat.cast_pow 10 n

theorem tenTo_div_tenTo (e : ℤ) :
  (tenTo e.toNat : ℚ) / tenTo (-e).toNat = 10 ^ e
  := by
  rw [cast_tenTo, cast_tenTo, ← zpow_natCast, ← zpow_natCast, ← zpow_sub₀ (by norm_num)]
  congr 1
  omega

theorem Scaled.value_eq (x : Scaled) :
  x.value = x.numerator / x.denominator
  := by
  rw [value, numerator, denominator, ← tenTo_div_tenTo]
  push_cast
  ring

theorem quotientAt_ratio (num den : ℕ) (e : ℤ) :
  ((quotientAt num den e).1 / (quotientAt num den e).2 : ℚ) = num / den / 10 ^ e
  := by
  rw [quotientAt, ← tenTo_div_tenTo]
  push_cast
  rw [div_div_div_eq]

theorem quotientAt_pos {den : ℕ} (positive : 0 < den) (num : ℕ) (e : ℤ) :
  0 < (quotientAt num den e).2
  := Nat.mul_pos positive (tenTo_pos _)

/-! ### Leading digits -/

theorem digitCount_spec {n : ℕ} (positive : 0 < n) :
  (10 : ℚ) ^ (digitCount n - 1 : ℤ) ≤ n ∧ (n : ℚ) < 10 ^ (digitCount n : ℤ)
  := by
  obtain ⟨k, digits⟩ := Nat.exists_eq_add_one_of_ne_zero (digitCount_pos n).ne'
  have below := (digitCount_le_iff n (k + 1) k.succ_pos).mp digits.le
  have above : tenTo k ≤ n := by
    obtain rfl | some_more := Nat.eq_zero_or_pos k
    · apply positive
    · apply Nat.le_of_not_lt
      rw [← digitCount_le_iff n k some_more, digits]
      apply k.not_succ_le_self
  rw [digits, Nat.cast_succ, add_sub_cancel_right, ← Nat.cast_succ, zpow_natCast, zpow_natCast,
    ← cast_tenTo, ← cast_tenTo]
  exact ⟨Nat.cast_le.mpr above, Nat.cast_lt.mpr below⟩

/-- The quotient of two numbers has about as many digits as the numbers have more and fewer. -/
theorem digitCount_ratio {num den : ℕ} (some_num : 0 < num) (some_den : 0 < den) :
  (10 : ℚ) ^ (digitCount num - digitCount den - 1 : ℤ) ≤ num / den ∧
    (num / den : ℚ) < 10 ^ (digitCount num - digitCount den + 1 : ℤ)
  := by
  obtain ⟨num_ge, num_lt⟩ := digitCount_spec some_num
  obtain ⟨den_ge, den_lt⟩ := digitCount_spec some_den
  have some_den' : (0 : ℚ) < den := Nat.cast_pos.mpr some_den
  rw [le_div_iff₀ some_den', div_lt_iff₀ some_den']
  constructor
  · calc (10 : ℚ) ^ (digitCount num - digitCount den - 1 : ℤ) * den
        ≤ 10 ^ (digitCount num - digitCount den - 1 : ℤ) * 10 ^ (digitCount den : ℤ) :=
          mul_le_mul_of_nonneg_left den_lt.le (by positivity)
      _ = 10 ^ (digitCount num - 1 : ℤ) := by
          rw [← zpow_add₀ (by norm_num)]
          congr 1
          ring
      _ ≤ num := num_ge
  · calc (num : ℚ) < 10 ^ (digitCount num : ℤ) := num_lt
      _ = 10 ^ (digitCount num - digitCount den + 1 : ℤ) * 10 ^ (digitCount den - 1 : ℤ) := by
          rw [← zpow_add₀ (by norm_num)]
          congr 1
          ring
      _ ≤ 10 ^ (digitCount num - digitCount den + 1 : ℤ) * den :=
          mul_le_mul_of_nonneg_left den_ge (by positivity)

/-- Where the integer part of a quotient has at most `digits` digits. -/
theorem quotientAt_lt_iff (digits num : ℕ) {den : ℕ} (positive : 0 < den) (e : ℤ) :
  (quotientAt num den e).1 / (quotientAt num den e).2 < tenTo digits ↔
    (num / den : ℚ) < 10 ^ (e + digits)
  := by
  have positive' : (0 : ℚ) < (quotientAt num den e).2 :=
    Nat.cast_pos.mpr (quotientAt_pos positive num e)
  rw [Nat.div_lt_iff_lt_mul (quotientAt_pos positive num e), ← Nat.cast_lt (α := ℚ), Nat.cast_mul,
    ← div_lt_iff₀ positive', quotientAt_ratio, div_lt_iff₀ (by positivity), cast_tenTo,
    zpow_add₀ (by norm_num), zpow_natCast, mul_comm]

/-- A quotient lies in the decade of its leading exponent. -/
theorem leadingExponent_spec (digits : ℕ) {num den : ℕ} (some_num : 0 < num)
    (some_den : 0 < den) :
  (10 : ℚ) ^ (leadingExponent digits num den + digits - 1) ≤ num / den ∧
    (num / den : ℚ) < 10 ^ (leadingExponent digits num den + digits)
  := by
  obtain ⟨above, below⟩ := digitCount_ratio some_num some_den
  have test := quotientAt_lt_iff digits num some_den
    ((digitCount num : ℤ) - digitCount den - digits)
  unfold leadingExponent
  dsimp only
  split
  · next fits =>
    refine ⟨?_, test.mp fits⟩
    convert above using 2
    ring
  · next wide =>
    have wide := not_lt.mp (mt test.mpr wide)
    constructor
    · rwa [add_right_comm, add_sub_cancel_right]
    · convert below using 2
      omega

variable {digits num den : ℕ}

/-- A quotient below a power of ten has its leading digits below it. -/
theorem leadingExponent_lt (digits : ℕ) {k : ℤ} (some_num : 0 < num) (some_den : 0 < den)
    (bound : (num / den : ℚ) < 10 ^ k) :
  leadingExponent digits num den + digits - 1 < k
  := (zpow_lt_zpow_iff_right₀ (by norm_num)).mp
    ((leadingExponent_spec digits some_num some_den).1.trans_lt bound)

/-! ### Rounding within a context -/

namespace Context

variable (c : Context)

@[simp]
theorem nearest_zero (den : ℕ) :
  c.nearest 0 den = ⟨0, 0⟩
  := if_pos rfl

/-- The grid of a context is at least as wide as that of the leading digits. -/
theorem leadingExponent_le_exponent (num den : ℕ) :
  leadingExponent c.precision num den ≤ c.exponent num den
  := le_max_left ..

theorem finest_le_exponent (num den : ℕ) :
  c.finest ≤ c.exponent num den
  := le_max_right ..

theorem finest_nonpos :
  c.finest ≤ 0
  := by
  have digits := c.precision_pos
  have least := c.least_nonpos
  rw [finest]
  omega

/-- A quotient below a power of ten has its digits below it, unless it is too small. -/
theorem exponent_lt {k : ℤ} (some_num : 0 < num) (some_den : 0 < den)
    (bound : (num / den : ℚ) < 10 ^ k) (wide : c.least < k) :
  c.exponent num den + c.precision - 1 < k
  := by
  have leading := leadingExponent_lt c.precision some_num some_den bound
  rw [exponent, finest]
  omega

/-- A quotient that is not too small is given to all digits. -/
theorem exponent_eq_of_le {k : ℤ} (some_num : 0 < num) (some_den : 0 < den)
    (bound : (10 ^ k : ℚ) ≤ num / den) (wide : c.least ≤ k) :
  c.exponent num den = leadingExponent c.precision num den
  := by
  obtain ⟨-, below⟩ := leadingExponent_spec c.precision some_num some_den
  have order := (zpow_lt_zpow_iff_right₀ (by norm_num)).mp (bound.trans_lt below)
  rw [exponent, finest]
  omega

theorem value_nearest (den : ℕ) (some_num : 0 < num) :
  (c.nearest num den).value =
    roundQuotient .toEven (quotientAt num den (c.exponent num den)).1
      (quotientAt num den (c.exponent num den)).2 * 10 ^ c.exponent num den
  := by
  rw [nearest, if_neg some_num.ne']
  rfl

variable {c}

section

variable {m : ℕ} (some_num : 0 < num) (some_den : 0 < den)

include some_num some_den

/-- The digits of a quotient are at least a point of their grid if the quotient is. -/
theorem le_nearest (below : (m * 10 ^ c.exponent num den : ℚ) ≤ num / den) :
  (m * 10 ^ c.exponent num den : ℚ) ≤ (c.nearest num den).value
  := by
  rw [c.value_nearest den some_num]
  apply mul_le_mul_of_nonneg_right _ (by positivity)
  have positive := quotientAt_pos some_den num (c.exponent num den)
  apply Nat.cast_le.mpr
  apply le_roundQuotient _ positive
  rw [← Nat.cast_le (α := ℚ), Nat.cast_mul, ← le_div_iff₀ (Nat.cast_pos.mpr positive),
    quotientAt_ratio, le_div_iff₀ (by positivity)]
  apply below

/-- The digits of a quotient are at most a point of their grid if the quotient is. -/
theorem nearest_le_point (above : (num / den : ℚ) ≤ m * 10 ^ c.exponent num den) :
  (c.nearest num den).value ≤ m * 10 ^ c.exponent num den
  := by
  rw [c.value_nearest den some_num]
  apply mul_le_mul_of_nonneg_right _ (by positivity)
  have positive := quotientAt_pos some_den num (c.exponent num den)
  apply Nat.cast_le.mpr
  apply roundQuotient_le _ positive
  rw [← Nat.cast_le (α := ℚ), Nat.cast_mul, ← div_le_iff₀ (Nat.cast_pos.mpr positive),
    quotientAt_ratio, div_le_iff₀ (by positivity)]
  apply above

/-- A point of the grid stays where it is. -/
theorem nearest_of_point (point : (num / den : ℚ) = m * 10 ^ c.exponent num den) :
  (c.nearest num den).value = num / den
  := by
  apply le_antisymm
  · rw [point]
    apply nearest_le_point some_num some_den point.le
  · rw [point]
    apply le_nearest some_num some_den point.ge

end

/-- The upper end of a decade is a point of the grid. -/
theorem point_of_decade (e : ℤ) (k : ℕ) :
  (10 : ℚ) ^ (e + k) = (10 ^ k : ℕ) * 10 ^ e
  := by
  rw [zpow_add₀ (by norm_num), zpow_natCast, mul_comm]
  push_cast
  rfl

/-- A quotient with all its digits does not fall below its decade. -/
theorem decade_le_nearest (some_num : 0 < num) (some_den : 0 < den)
    (normal : c.exponent num den = leadingExponent c.precision num den) :
  (10 : ℚ) ^ (c.exponent num den + c.precision - 1) ≤ (c.nearest num den).value
  := by
  obtain ⟨above, -⟩ := leadingExponent_spec c.precision some_num some_den
  have digits := c.precision_pos
  have lower : c.exponent num den + c.precision - 1 =
      c.exponent num den + (c.precision - 1 : ℕ) := by omega
  rw [← normal, lower, point_of_decade] at above
  rw [lower, point_of_decade]
  apply le_nearest some_num some_den above

/-- The digits of a quotient reach at most the upper end of their decade. -/
theorem nearest_le_decade (some_num : 0 < num) (some_den : 0 < den) :
  (c.nearest num den).value ≤ 10 ^ (c.exponent num den + c.precision)
  := by
  obtain ⟨-, below⟩ := leadingExponent_spec c.precision some_num some_den
  have decade : (10 : ℚ) ^ (leadingExponent c.precision num den + c.precision) ≤
      10 ^ (c.exponent num den + c.precision) := by
    apply zpow_le_zpow_right₀ (by norm_num)
    have wider := c.leadingExponent_le_exponent num den
    omega
  rw [point_of_decade (c.exponent num den)] at decade ⊢
  apply nearest_le_point some_num some_den (below.le.trans decade)

/-- Rounding moves a quotient by at most half a step of the grid. -/
theorem nearest_near (some_num : 0 < num) (some_den : 0 < den) :
  |(c.nearest num den).value - num / den| ≤ 10 ^ c.exponent num den / 2
  := by
  set step : ℚ := 10 ^ c.exponent num den with same
  have step_pos : 0 < step := by positivity
  have near := roundQuotient_near .toEven (quotientAt num den (c.exponent num den)).1
    (quotientAt_pos some_den num (c.exponent num den))
  rw [quotientAt_ratio, ← same] at near
  rw [c.value_nearest den some_num, ← same]
  calc |(roundQuotient .toEven (quotientAt num den (c.exponent num den)).1
          (quotientAt num den (c.exponent num den)).2 : ℚ) * step - num / den|
      = |(roundQuotient .toEven (quotientAt num den (c.exponent num den)).1
          (quotientAt num den (c.exponent num den)).2 : ℚ) - num / den / step| * step
        := by
          rw [← abs_of_pos step_pos, ← abs_mul, abs_of_pos step_pos, sub_mul,
            div_mul_cancel₀ _ step_pos.ne']
    _ ≤ 1 / 2 * step := mul_le_mul_of_nonneg_right near step_pos.le
    _ = step / 2 := by ring

/-- An integer with few digits keeps all of them. -/
theorem nearest_of_short {n : ℕ} (short : n < tenTo c.precision) :
  (c.nearest n 1).value = n
  := by
  obtain rfl | positive := Nat.eq_zero_or_pos n
  · simp [Scaled.value]
  · have short' : ((n : ℚ) / (1 : ℕ)) < 10 ^ (c.precision : ℤ) := by
      rw [Nat.cast_one, div_one, zpow_natCast, ← cast_tenTo]
      apply Nat.cast_lt.mpr short
    have small : c.exponent n 1 ≤ 0 := by
      have leading := leadingExponent_lt c.precision positive Nat.one_pos short'
      have finest := c.finest_nonpos
      rw [exponent]
      omega
    have point : ((n : ℚ) / (1 : ℕ)) =
        (n * 10 ^ (-c.exponent n 1).toNat : ℕ) * 10 ^ c.exponent n 1 := by
      push_cast
      rw [mul_assoc, ← zpow_natCast, ← zpow_add₀ (by norm_num), Int.toNat_of_nonneg (by omega),
        neg_add_cancel, zpow_zero, mul_one, div_one]
    rw [nearest_of_point positive Nat.one_pos point, Nat.cast_one, div_one]

end Context

/-- Half-integers lie on every grid that is finer than the integers. -/
theorem exists_point_of_half (h : ℕ) {e : ℤ} (fine : e < 0) :
  ∃ m : ℕ, (h / 2 : ℚ) = m * 10 ^ e
  := by
  have step : -e - 1 + e = -1 := by ring
  use h * 5 * 10 ^ (-e - 1).toNat
  push_cast
  rw [mul_assoc, ← zpow_natCast, ← zpow_add₀ (by norm_num), Int.toNat_of_nonneg (by omega), step]
  norm_num
  ring

/-- An integer is reached by rounding from the half-integer below it. -/
theorem Scaled.succ_le_round_iff (x : Scaled) (m : ℕ) :
  m + 1 ≤ x.round ↔ ((2 * m + 1 : ℕ) / 2 : ℚ) ≤ x.value
  := by
  have positive : 0 < x.denominator := tenTo_pos _
  rw [round, roundQuotient_up_eq _ positive, Nat.le_div_iff_mul_le (by omega), value_eq,
    div_le_div_iff₀ (by norm_num) (Nat.cast_pos.mpr positive)]
  have twice : (m + 1) * (2 * x.denominator) = (2 * m + 1) * x.denominator + x.denominator := by
    ring
  norm_cast
  omega

end TypeCoverage.Decimal
