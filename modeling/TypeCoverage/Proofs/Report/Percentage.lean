import TypeCoverage.Proofs.Decimal.Overflowing
import TypeCoverage.Report.Basic

/-!
# The percentage of a report

The percentage is the quotient `Report.ratio`, which is rounded twice to its leading digits,
rounded half up to an integer.  Up to totals of 26 digits the dividend is exact, and the
quotient keeps its distance from every half-integer: of two different fractions with
denominators `2` and `total` one exceeds the other by more than half a step of the grid on
which the quotient is rounded.  Hence the ratio reaches the same half-integers as the exact
quotient (`half_le_ratio_iff`), and the percentage is rounded as if only once
(`RoundsOnce`).
-/

namespace TypeCoverage.Report

open Decimal

/-- A hundred times the covered expressions, to the digits of the context. -/
def dividend (r : Report) : Scaled := context.nearest (r.covered * 100) 1

/-- What the numerator of the dividend is divided by. -/
def divisor (r : Report) : ℕ := r.dividend.denominator * r.total

/-- The quotient that the percentage is rounded from. -/
def ratio (r : Report) : Scaled := context.nearest r.dividend.numerator r.divisor

variable {r : Report}

theorem divisor_pos (counted : 0 < r.total) :
  0 < r.divisor
  := Nat.mul_pos (tenTo_pos _) counted

/-! ### The dividend -/

/-- An integer is given to all digits. -/
theorem normal_dividend (some : 0 < r.covered) :
  context.exponent (r.covered * 100) 1 = leadingExponent context.precision (r.covered * 100) 1
  := by
  have least : (10 : ℚ) ^ (0 : ℤ) ≤ (r.covered * 100 : ℕ) / (1 : ℕ) := by
    rw [zpow_zero, Nat.cast_one, div_one, Nat.one_le_cast]
    omega
  exact context.exponent_eq_of_le (by omega) Nat.one_pos least context.least_nonpos

theorem dividend_near (r : Report) :
  |r.dividend.value - 100 * r.covered| ≤ 100 * r.covered * 10 ^ (-27 : ℤ) / 2
  := by
  obtain none | some := Nat.eq_zero_or_pos r.covered
  · simp [dividend, none, Scaled.value]
  · have near := Context.nearest_relative (by omega) Nat.one_pos (normal_dividend some)
    have last : (1 - (context.precision : ℕ) : ℤ) = -27 := rfl
    rw [last, Nat.cast_mul, Nat.cast_one, div_one, mul_comm (r.covered : ℚ)] at near
    exact_mod_cast near

theorem value_dividend (bounded : r.total < 10 ^ 26) :
  r.dividend.value = 100 * r.covered
  := by
  have part : r.covered ≤ r.total := Nat.le_add_right ..
  have wide : tenTo context.precision = 100 * 10 ^ 26 := by decide +kernel
  rw [dividend, Context.nearest_of_short (by omega)]
  push_cast
  ring

/-- Few digits do not make the dividend too large. -/
theorem dividend_lt {k : ℕ} (small : r.covered < 10 ^ k) (few : k ≤ 999990) :
  r.dividend.value < 10 ^ (context.greatest + 1)
  := by
  have greatest : context.greatest + 1 = 1000000 := rfl
  have precision : (context.precision : ℤ) = 28 := rfl
  obtain none | some := Nat.eq_zero_or_pos r.covered
  · have zero : r.dividend.value = 0 := by simp [dividend, none, Scaled.value]
    rw [zero]
    positivity
  · have less : ((r.covered * 100 : ℕ) / (1 : ℕ) : ℚ) < 10 ^ (k + 2 : ℤ) := by
      have less : r.covered * 100 < 10 ^ (k + 2) := by
        rw [Nat.pow_add]
        omega
      rw [Nat.cast_one, div_one]
      exact_mod_cast less
    have least : context.least = -999999 := rfl
    have decade := context.exponent_lt (by omega) Nat.one_pos less (by omega)
    apply (Context.nearest_le_decade (by omega) Nat.one_pos).trans_lt
    apply zpow_lt_zpow_right₀ (by norm_num)
    omega

/-! ### The quotient -/

/-- The quotient before it is rounded. -/
theorem dividend_div_divisor (r : Report) :
  (r.dividend.numerator / r.divisor : ℚ) = r.dividend.value / r.total
  := by
  rw [Scaled.value_eq, divisor, Nat.cast_mul, div_div]

theorem dividend_div (bounded : r.total < 10 ^ 26) :
  (r.dividend.numerator / r.divisor : ℚ) = 100 * r.covered / r.total
  := by
  rw [dividend_div_divisor, value_dividend bounded]

/-- Something covered gives a dividend that is not zero. -/
theorem numerator_dividend_pos (some : 0 < r.covered) :
  0 < r.dividend.numerator
  := by
  have above := Context.decade_le_nearest (by omega) Nat.one_pos (normal_dividend some)
  have positive : 0 < r.dividend.value := lt_of_lt_of_le (by positivity) above
  apply Nat.pos_of_ne_zero
  intro zero
  rw [Scaled.value_eq, zero, Nat.cast_zero, zero_div] at positive
  apply lt_irrefl _ positive

theorem quotient_le (counted : 0 < r.total) :
  (100 * r.covered / r.total : ℚ) ≤ 100
  := by
  have part : (r.covered : ℚ) ≤ r.total := Nat.cast_le.mpr (Nat.le_add_right ..)
  rw [div_le_iff₀ (Nat.cast_pos.mpr counted)]
  linarith

/-- The quotient that is rounded differs from the exact one by a small part of it. -/
theorem dividend_div_near (counted : 0 < r.total) :
  |(r.dividend.numerator / r.divisor : ℚ) - 100 * r.covered / r.total| ≤ 10 ^ (-25 : ℤ) / 2
  := by
  have counted' : (0 : ℚ) < r.total := Nat.cast_pos.mpr counted
  rw [dividend_div_divisor, ← sub_div, abs_div, abs_of_pos counted']
  calc |r.dividend.value - 100 * r.covered| / r.total
      ≤ 100 * r.covered * 10 ^ (-27 : ℤ) / 2 / r.total :=
        div_le_div_of_nonneg_right r.dividend_near counted'.le
    _ = 100 * r.covered / r.total * (10 ^ (-27 : ℤ) / 2) := by ring
    _ ≤ 100 * (10 ^ (-27 : ℤ) / 2) :=
        mul_le_mul_of_nonneg_right (quotient_le counted) (by positivity)
    _ = 10 ^ (-25 : ℤ) / 2 := by norm_num

theorem dividend_div_le (counted : 0 < r.total) :
  (r.dividend.numerator / r.divisor : ℚ) ≤ 101
  := by
  have near := (abs_le.mp (dividend_div_near counted)).2
  have small : (10 : ℚ) ^ (-25 : ℤ) / 2 ≤ 1 := by norm_num
  have part := quotient_le counted
  linarith

/-! ### The percentage -/

/-- The quotient is never too large. -/
theorem ratio_lt (counted : 0 < r.total) :
  r.ratio.value < 10 ^ (context.greatest + 1)
  := by
  obtain zero | some := Nat.eq_zero_or_pos r.dividend.numerator
  · have nothing : r.ratio.value = 0 := by simp [ratio, zero, Scaled.value]
    rw [nothing]
    positivity
  · have less : (r.dividend.numerator / r.divisor : ℚ) < 10 ^ (3 : ℤ) :=
      (dividend_div_le counted).trans_lt (by norm_num)
    have least : context.least < 3 := by decide
    have decade := context.exponent_lt some (divisor_pos counted) less least
    have greatest : (3 : ℤ) < context.greatest + 1 := by decide
    apply (Context.nearest_le_decade some (divisor_pos counted)).trans_lt
    apply zpow_lt_zpow_right₀ (by norm_num)
    omega

section

variable (counted : 0 < r.total)

include counted

/-- The quotient is there unless the dividend is too large. -/
theorem ratio?_eq_some (fits : r.dividend.value < 10 ^ (context.greatest + 1)) :
  r.ratio? = some r.ratio
  := by
  rw [ratio?, Context.round?_eq_some Nat.one_pos fits, Option.bind_some]
  exact Context.round?_eq_some (divisor_pos counted) (ratio_lt counted)

theorem percent?_eq_some (fits : r.dividend.value < 10 ^ (context.greatest + 1)) :
  r.percent? = some r.ratio.round
  := by
  rw [percent?, if_neg counted.ne', ratio?_eq_some counted fits]
  rfl

/-- There is no percentage if the dividend is too large. -/
theorem percent?_eq_none (large : 10 ^ (context.greatest + 1) ≤ r.dividend.value) :
  r.percent? = none
  := by
  rw [percent?, if_neg counted.ne', ratio?, (Context.round?_eq_none_iff Nat.one_pos).mpr large]
  rfl

end

theorem percent?_of_empty (empty : r.total = 0) :
  r.percent? = some 0
  := if_pos empty

/-- A percentage is there if the covered expressions have not too many digits. -/
theorem exists_percent {k : ℕ} (small : r.covered < 10 ^ k) (few : k ≤ 999990) :
  ∃ percent, r.percent? = some percent
  := by
  obtain empty | counted := Nat.eq_zero_or_pos r.total
  · exact ⟨0, percent?_of_empty empty⟩
  · exact ⟨_, percent?_eq_some counted (dividend_lt small few)⟩

/-- The percentage of a report that has one. -/
def percent (r : Report) : ℕ := r.percent?.getD 0

/-- Counts that can be written have a percentage. -/
theorem percent?_of_digitCount (short : digitCount r.covered ≤ digitLimit) :
  r.percent? = some r.percent
  := by
  have small : r.covered < 10 ^ digitLimit := (digitCount_le_iff _ _ (by decide)).mp short
  obtain ⟨n, percent⟩ := exists_percent small (by decide)
  rw [Report.percent, percent, Option.getD_some]

/-! ### Bounded totals -/

/-- The exponent of the grid on which the ratio is rounded. -/
def exponent (r : Report) : ℤ := context.exponent r.dividend.numerator r.divisor

section

variable (counted : 0 < r.total) (bounded : r.total < 10 ^ 26) (some : 0 < r.covered)

include counted bounded some

/-- A quotient below a power of ten is rounded on a grid that is finer by the precision. -/
theorem exponent_lt {k : ℤ} (bound : (100 * r.covered / r.total : ℚ) < 10 ^ k)
    (wide : context.least < k) :
  r.exponent + 27 < k
  := by
  rw [← dividend_div bounded] at bound
  have decade :=
    context.exponent_lt (numerator_dividend_pos some) (divisor_pos counted) bound wide
  have digits : (context.precision : ℤ) = 28 := rfl
  rw [exponent]
  omega

/-- The ratio is rounded on a grid with all half-integers. -/
theorem exponent_neg :
  r.exponent < 0
  := by
  have decade := exponent_lt counted bounded some (k := 3)
    ((quotient_le counted).trans_lt (by norm_num)) (by decide)
  omega

theorem half_le_ratio {h : ℕ} (reached : (h / 2 : ℚ) ≤ 100 * r.covered / r.total) :
  (h / 2 : ℚ) ≤ r.ratio.value
  := by
  obtain ⟨m, point⟩ := exists_point_of_half h (exponent_neg counted bounded some)
  rw [point] at reached ⊢
  apply Context.le_nearest (numerator_dividend_pos some) (divisor_pos counted)
  rw [dividend_div bounded]
  apply reached

theorem ratio_le_half {h : ℕ} (kept : (100 * r.covered / r.total : ℚ) ≤ h / 2) :
  r.ratio.value ≤ h / 2
  := by
  obtain ⟨m, point⟩ := exists_point_of_half h (exponent_neg counted bounded some)
  rw [point] at kept ⊢
  apply Context.nearest_le_point (numerator_dividend_pos some) (divisor_pos counted)
  rw [dividend_div bounded]
  apply kept

/-- Below a hundred, the ratio differs from the quotient by less than two different fractions
with the denominators two and `total` do. -/
theorem ratio_sub_lt (missed : r.covered < r.total) :
  r.ratio.value - 100 * r.covered / r.total < 1 / (2 * r.total)
  := by
  have counted' : (0 : ℚ) < r.total := Nat.cast_pos.mpr counted
  have missed' : (r.covered : ℚ) < r.total := Nat.cast_lt.mpr missed
  have bounded' : (r.total : ℚ) < 10 ^ 26 := by exact_mod_cast bounded
  have decade := exponent_lt counted bounded some (k := 2) (by
    rw [div_lt_iff₀ counted']
    linarith) (by decide)
  have step : (10 : ℚ) ^ r.exponent ≤ 10 ^ (-26 : ℤ) :=
    zpow_le_zpow_right₀ (by norm_num) (by omega)
  have near := Context.nearest_near (c := context) (numerator_dividend_pos some)
    (divisor_pos counted)
  rw [dividend_div bounded] at near
  calc r.ratio.value - 100 * r.covered / r.total
      ≤ 10 ^ r.exponent / 2 := (le_abs_self _).trans near
    _ ≤ 10 ^ (-26 : ℤ) / 2 := div_le_div_of_nonneg_right step (by norm_num)
    _ = 1 / (2 * 10 ^ 26) := by norm_num
    _ < 1 / (2 * r.total) := by
        apply one_div_lt_one_div_of_lt (by positivity)
        linarith

theorem ratio_lt_half {h : ℕ} (missed : (100 * r.covered / r.total : ℚ) < h / 2) :
  r.ratio.value < h / 2
  := by
  have counted' : (0 : ℚ) < r.total := Nat.cast_pos.mpr counted
  have part : r.covered ≤ r.total := Nat.le_add_right ..
  obtain less | same := part.lt_or_eq
  · have near := ratio_sub_lt counted bounded some less
    -- Over the denominator `2 * total` the half-integer is larger by one at least.
    have apart : 1 / (2 * r.total : ℚ) ≤ h / 2 - 100 * r.covered / r.total := by
      rw [div_lt_div_iff₀ counted' (by norm_num)] at missed
      have missed' : 100 * r.covered * 2 + 1 ≤ h * r.total := by exact_mod_cast missed
      have missed'' : (100 * r.covered * 2 + 1 : ℚ) ≤ h * r.total := by exact_mod_cast missed'
      have difference : (h / 2 - 100 * r.covered / r.total : ℚ) =
          (h * r.total - 100 * r.covered * 2) / (2 * r.total) := by
        field_simp
      rw [difference]
      apply div_le_div_of_nonneg_right _ (by positivity)
      linarith
    linarith
  · have full : (100 * r.covered / r.total : ℚ) = 100 := by
      rw [same, mul_div_assoc, div_self counted'.ne', mul_one]
    rw [full] at missed
    have hundred := ratio_le_half counted bounded some (h := 200) (by
      rw [full]
      norm_num)
    push_cast at hundred
    linarith

end

/-- The ratio reaches a half-integer exactly if the quotient does. -/
theorem half_le_ratio_iff (counted : 0 < r.total) (bounded : r.total < 10 ^ 26) (h : ℕ) :
  (h / 2 : ℚ) ≤ r.ratio.value ↔ h * r.total ≤ 200 * r.covered
  := by
  have exact_iff : (h / 2 : ℚ) ≤ 100 * r.covered / r.total ↔ h * r.total ≤ 200 * r.covered := by
    rw [div_le_div_iff₀ (by norm_num) (Nat.cast_pos.mpr counted), ← Nat.cast_le (α := ℚ)]
    push_cast
    constructor <;> intro <;> linarith
  rw [← exact_iff]
  obtain none | some := Nat.eq_zero_or_pos r.covered
  · have zero : r.ratio = ⟨0, 0⟩ := by
      simp [ratio, dividend, none, Scaled.numerator]
    simp [zero, Scaled.value, none]
  · constructor
    · intro reached
      by_contra missed
      apply absurd reached (ratio_lt_half counted bounded some (not_le.mp missed)).not_ge
    · apply half_le_ratio counted bounded some

/-- The percentage is the exact quotient rounded half up, and the roundings before the last
one carry nothing across a half-integer. -/
structure RoundsOnce (r : Report) : Prop where
  percent : r.percent? = some ((200 * r.covered + r.total) / (2 * r.total))
  ratio : ∃ ratio, r.ratio? = some ratio ∧ r.percent? = some ratio.round ∧
    ∀ h : ℕ, (h / 2 : ℚ) ≤ ratio.value ↔ h * r.total ≤ 200 * r.covered

/-- Up to totals of 26 digits the percentage is rounded as if only once. -/
theorem roundsOnce (r : Report) (counted : 0 < r.total) (bounded : r.total < 10 ^ 26) :
  r.RoundsOnce
  := by
  have part : r.covered ≤ r.total := Nat.le_add_right ..
  have fits := dividend_lt (part.trans_lt bounded) (by decide)
  have percent := percent?_eq_some counted fits
  constructor
  case ratio =>
    exact ⟨r.ratio, ratio?_eq_some counted fits, percent, half_le_ratio_iff counted bounded⟩
  case percent =>
    rw [percent]
    apply congrArg
    apply eq_of_forall_le_iff
    intro m
    cases m with
    | zero => simp
    | succ m =>
      rw [Scaled.succ_le_round_iff, half_le_ratio_iff counted bounded,
        Nat.le_div_iff_mul_le (by omega)]
      have twice : (m + 1) * (2 * r.total) = (2 * m + 1) * r.total + r.total := by ring
      omega

/-- The largest total, and a share that exceeds no fraction with this total below `99.5`. -/
theorem roundsOnce_widest :
  let r : Report := ⟨99499999999999999999999999, 500000000000000000000000, []⟩
  0 < r.total ∧ r.total < 10 ^ 26 ∧ r.RoundsOnce ∧ r.percent? = some 99
  := by
  intro r
  have counted : 0 < r.total := by decide +kernel
  have bounded : r.total < 10 ^ 26 := by decide +kernel
  have once := r.roundsOnce counted bounded
  refine ⟨counted, bounded, once, ?_⟩
  rw [once.percent]
  decide +kernel

end TypeCoverage.Report
