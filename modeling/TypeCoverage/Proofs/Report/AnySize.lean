import TypeCoverage.Proofs.Report.Percentage

/-!
# Percentages of reports of any size

Beyond the precision both the dividend and the quotient behind a percentage are inexact.
Their errors stay small parts of what they are errors of, so that the ratio is never far from
the exact quotient (`ratio_near`), and both roundings keep the order, so that the percentage
follows the counts in the right direction (`round_ratio_mono`).  `proportionate` says what this
comes to for every report.  Only a dividend that is too large for a decimal number is an end to
it: there is no percentage from about `10 ^ 999998` covered expressions on
(`percent?_eq_none_iff`, `percent?_of_overflow`).
-/

namespace TypeCoverage.Report

open Decimal

variable {r s : Report}

/-! ### The distance from the exact quotient -/

section

variable (counted : 0 < r.total)

include counted

/-- The ratio differs little from the exact quotient, whatever the size of the counts. -/
theorem ratio_near :
  |r.ratio.value - 100 * r.covered / r.total| ≤ 10 ^ (-24 : ℤ)
  := by
  have second : |r.ratio.value - r.dividend.numerator / r.divisor| ≤
      101 * 10 ^ (-27 : ℤ) / 2 := by
    obtain zero | some := Nat.eq_zero_or_pos r.dividend.numerator
    · have nothing : r.ratio.value = 0 := by simp [ratio, zero, Scaled.value]
      rw [nothing, zero, Nat.cast_zero, zero_div, sub_zero, abs_zero]
      positivity
    · by_cases normal : context.exponent r.dividend.numerator r.divisor =
          leadingExponent context.precision r.dividend.numerator r.divisor
      · apply (Context.nearest_relative some (divisor_pos counted) normal).trans
        apply div_le_div_of_nonneg_right _ (by norm_num)
        exact mul_le_mul_of_nonneg_right (dividend_div_le counted) (by positivity)
      · -- A quotient without all digits is tiny, and so is what is lost of it.
        have tiny := Context.nearest_finest some (divisor_pos counted) normal
        have fine : (10 : ℚ) ^ context.finest ≤ 10 ^ (-27 : ℤ) :=
          zpow_le_zpow_right₀ (by norm_num) (by decide)
        apply tiny.trans
        apply div_le_div_of_nonneg_right _ (by norm_num)
        apply fine.trans
        norm_num
  have first := dividend_div_near counted
  calc |r.ratio.value - 100 * r.covered / r.total|
      ≤ |r.ratio.value - r.dividend.numerator / r.divisor| +
          |(r.dividend.numerator / r.divisor : ℚ) - 100 * r.covered / r.total| :=
        abs_sub_le ..
    _ ≤ 101 * 10 ^ (-27 : ℤ) / 2 + 10 ^ (-25 : ℤ) / 2 := add_le_add second first
    _ ≤ 10 ^ (-24 : ℤ) := by norm_num

/-- The exact quotient is not far below an integer that is reached. -/
theorem lt_quotient_of_succ_le {m : ℕ} (reached : m + 1 ≤ r.ratio.round) :
  (m + 1 / 4 : ℚ) < 100 * r.covered / r.total
  := by
  rw [Scaled.succ_le_round_iff] at reached
  have near := (abs_le.mp (ratio_near counted)).2
  have small : (10 : ℚ) ^ (-24 : ℤ) < 1 / 4 := by norm_num
  push_cast at reached
  linarith

/-- An integer is reached if the exact quotient is not far below it. -/
theorem succ_le_of_le_quotient {m : ℕ} (close : (m + 3 / 4 : ℚ) ≤ 100 * r.covered / r.total) :
  m + 1 ≤ r.ratio.round
  := by
  rw [Scaled.succ_le_round_iff]
  have near := (abs_le.mp (ratio_near counted)).1
  have small : (10 : ℚ) ^ (-24 : ℤ) < 1 / 4 := by norm_num
  push_cast
  linarith

/-- The exact quotient rounded half up, by bounds of the quotient. -/
theorem le_halfUp_iff (m : ℕ) :
  m ≤ (200 * r.covered + r.total) / (2 * r.total) ↔
    (m - 1 / 2 : ℚ) ≤ 100 * r.covered / r.total
  := by
  have counted' : (0 : ℚ) < r.total := Nat.cast_pos.mpr counted
  rw [Nat.le_div_iff_mul_le (by omega), le_div_iff₀ counted', ← Nat.cast_le (α := ℚ)]
  push_cast
  constructor <;> intro <;> linarith

/-- The rounded ratio and the exact quotient rounded half up differ by at most one. -/
theorem round_ratio_near_halfUp :
  r.ratio.round ≤ (200 * r.covered + r.total) / (2 * r.total) + 1 ∧
    (200 * r.covered + r.total) / (2 * r.total) ≤ r.ratio.round + 1
  := by
  set halfUp := (200 * r.covered + r.total) / (2 * r.total) with same
  constructor
  · by_contra above
    have reached := lt_quotient_of_succ_le counted (not_le.mp above)
    have next : halfUp + 1 ≤ halfUp := by
      rw [same, le_halfUp_iff counted, ← same]
      push_cast at reached ⊢
      linarith
    omega
  · by_contra above
    have reached : ((r.ratio.round + 2 : ℕ) - 1 / 2 : ℚ) ≤ 100 * r.covered / r.total := by
      rw [← le_halfUp_iff counted]
      omega
    have next : r.ratio.round + 1 ≤ r.ratio.round := by
      apply succ_le_of_le_quotient counted
      push_cast at reached
      linarith
    omega

theorem round_ratio_le_hundred :
  r.ratio.round ≤ 100
  := by
  by_contra above
  have above := lt_quotient_of_succ_le counted (m := 100) (not_le.mp above)
  have part := quotient_le counted
  push_cast at above
  linarith

/-- A percentage is the rounded ratio. -/
theorem eq_round_ratio {n : ℕ} (percent : r.percent? = some n) :
  n = r.ratio.round
  := by
  by_cases fits : r.dividend.value < 10 ^ (context.greatest + 1)
  · rw [percent?_eq_some counted fits] at percent
    exact (Option.some.inj percent).symm
  · rw [percent?_eq_none counted (not_lt.mp fits)] at percent
    cases percent

end

/-! ### The ends of the scale -/

theorem eq_zero_of_empty (empty : r.total = 0) {n : ℕ} (percent : r.percent? = some n) :
  n = 0
  := by
  rw [percent?_of_empty empty] at percent
  exact (Option.some.inj percent).symm

theorem percent?_of_none (none : r.covered = 0) :
  r.percent? = some 0
  := by
  obtain empty | counted := Nat.eq_zero_or_pos r.total
  · apply percent?_of_empty empty
  · have small : r.covered < 10 ^ 0 := by
      rw [none]
      exact Nat.one_pos
    rw [percent?_eq_some counted (dividend_lt small (by decide)), Option.some_inj]
    by_contra some
    have above := lt_quotient_of_succ_le counted (m := 0) (Nat.pos_of_ne_zero some)
    rw [none] at above
    norm_num at above

theorem percent_le_hundred {n : ℕ} (percent : r.percent? = some n) :
  n ≤ 100
  := by
  obtain empty | counted := Nat.eq_zero_or_pos r.total
  · rw [eq_zero_of_empty empty percent]
    apply Nat.zero_le
  · rw [eq_round_ratio counted percent]
    apply round_ratio_le_hundred counted

theorem percent_of_full (full : r.uncovered = 0) (more : 0 < r.covered) {n : ℕ}
    (percent : r.percent? = some n) :
  n = 100
  := by
  have total : r.total = r.covered := by rw [Report.total, full, Nat.add_zero]
  apply Nat.le_antisymm (percent_le_hundred percent)
  rw [eq_round_ratio (total ▸ more) percent]
  apply succ_le_of_le_quotient (total ▸ more)
  have more' : (r.covered : ℚ) ≠ 0 := Nat.cast_ne_zero.mpr more.ne'
  rw [total, mul_div_assoc, div_self more']
  norm_num

/-! ### The order of percentages -/

theorem dividend_mono (le : r.covered ≤ s.covered) :
  r.dividend.value ≤ s.dividend.value
  := by
  apply Context.nearest_mono Nat.one_pos Nat.one_pos
  rw [Nat.cast_one, div_one, div_one]
  apply Nat.cast_le.mpr
  apply Nat.mul_le_mul_right 100 le

/-- The rounded ratio grows with the quotient that is rounded. -/
theorem round_ratio_mono (counted_r : 0 < r.total) (counted_s : 0 < s.total)
    (le : r.dividend.value / r.total ≤ s.dividend.value / s.total) :
  r.ratio.round ≤ s.ratio.round
  := by
  rw [← dividend_div_divisor, ← dividend_div_divisor] at le
  apply Scaled.round_mono
  apply Context.nearest_mono (divisor_pos counted_r) (divisor_pos counted_s) le

section

variable {n m : ℕ} (percent_r : r.percent? = some n) (percent_s : s.percent? = some m)

include percent_r percent_s

theorem percent_le_of_covered_le (same : s.total = r.total) (le : r.covered ≤ s.covered) :
  n ≤ m
  := by
  obtain empty | counted := Nat.eq_zero_or_pos r.total
  · rw [eq_zero_of_empty empty percent_r]
    apply Nat.zero_le
  · rw [eq_round_ratio counted percent_r, eq_round_ratio (same ▸ counted) percent_s]
    apply round_ratio_mono counted (same ▸ counted)
    rw [same]
    apply div_le_div_of_nonneg_right (dividend_mono le) (Nat.cast_nonneg _)

theorem percent_le_of_uncovered_le (same : s.covered = r.covered)
    (le : r.uncovered ≤ s.uncovered) :
  m ≤ n
  := by
  obtain none | some := Nat.eq_zero_or_pos s.covered
  · rw [percent?_of_none none] at percent_s
    rw [← Option.some.inj percent_s]
    apply Nat.zero_le
  · have counted : 0 < r.total := by
      rw [Report.total]
      omega
    have more : r.total ≤ s.total := by
      rw [Report.total, Report.total]
      omega
    have dividend : s.dividend = r.dividend := by rw [Report.dividend, Report.dividend, same]
    rw [eq_round_ratio counted percent_r, eq_round_ratio (counted.trans_le more) percent_s]
    apply round_ratio_mono (counted.trans_le more) counted
    rw [dividend]
    apply div_le_div_of_nonneg_left (Scaled.value_nonneg _) (Nat.cast_pos.mpr counted)
    apply Nat.cast_le.mpr more

end

/-! ### Dividends that are too large -/

/-- A bound of the quotient by powers of ten, in counts. -/
theorem power_le_add_half_iff (n first last : ℕ) :
  (10 : ℚ) ^ (first : ℤ) ≤ (n * 100 : ℕ) / (1 : ℕ) + 10 ^ (last : ℤ) / 2 ↔
    2 * 10 ^ first ≤ 200 * n + 10 ^ last
  := by
  rw [zpow_natCast, zpow_natCast, Nat.cast_one, div_one, ← Nat.cast_le (α := ℚ)]
  push_cast
  constructor <;> intro <;> linarith

/-- There is no percentage if a hundred times the covered expressions, to 28 digits, reach ten
to the power of a million. -/
theorem percent?_eq_none_iff (r : Report) :
  r.percent? = none ↔ 2 * 10 ^ 1000000 ≤ 200 * r.covered + 10 ^ 999972
  := by
  rw [← power_le_add_half_iff]
  have first : context.greatest + 1 = (1000000 : ℕ) := rfl
  have last : context.greatest + 1 - context.precision = (999972 : ℕ) := rfl
  obtain none | some := Nat.eq_zero_or_pos r.covered
  · have less : (10 : ℚ) ^ ((999972 : ℕ) : ℤ) ≤ 10 ^ ((1000000 : ℕ) : ℤ) :=
      zpow_le_zpow_right₀ (by norm_num) (by decide)
    have half : (10 : ℚ) ^ ((999972 : ℕ) : ℤ) / 2 < 10 ^ ((999972 : ℕ) : ℤ) :=
      half_lt_self (zpow_pos (by norm_num) _)
    rw [percent?_of_none none, none, Nat.zero_mul, Nat.cast_zero, zero_div, zero_add]
    exact iff_of_false (by simp) (not_le.mpr (half.trans_le less))
  · have counted : 0 < r.total := Nat.lt_of_lt_of_le some (Nat.le_add_right ..)
    have more : 0 < r.covered * 100 := by omega
    have reaches := Context.reaches_end_iff (c := context) more Nat.one_pos
    rw [last, first] at reaches
    rw [← reaches]
    constructor
    · intro overflow
      by_contra fits
      rw [← first] at fits
      rw [percent?_eq_some counted (not_le.mp fits)] at overflow
      cases overflow
    · intro large
      rw [← first] at large
      apply percent?_eq_none counted large

/-! ### What holds of every percentage -/

/-- A percentage is a share of a hundred that follows the counts. -/
structure Proportionate (r : Report) : Prop where
  /-- There is one, unless a hundred times the covered expressions, to 28 digits, reach ten to
  the power of a million. -/
  overflows_iff : r.percent? = none ↔ 2 * 10 ^ 1000000 ≤ 200 * r.covered + 10 ^ 999972
  /-- Nothing is divided if nothing was counted, and else the divisors are positive. -/
  divides : (r.total = 0 ∧ r.percent? = some 0) ∨
    (0 < r.divisor ∧ 0 < r.ratio.denominator ∧ ∀ n, r.percent? = some n → n = r.ratio.round)
  le_hundred : ∀ n, r.percent? = some n → n ≤ 100
  full : r.uncovered = 0 → 0 < r.covered → ∀ n, r.percent? = some n → n = 100
  none : r.covered = 0 → r.percent? = some 0
  /-- It does not decrease when more of the same total is covered. -/
  covered_mono : ∀ s : Report, s.total = r.total → r.covered ≤ s.covered →
    ∀ n m, r.percent? = some n → s.percent? = some m → n ≤ m
  /-- It does not increase when more is uncovered beside what is covered. -/
  uncovered_anti : ∀ s : Report, s.covered = r.covered → r.uncovered ≤ s.uncovered →
    ∀ n m, r.percent? = some n → s.percent? = some m → m ≤ n
  /-- It differs from the exact quotient rounded half up by at most one. -/
  near : 0 < r.total → ∀ n, r.percent? = some n →
    n ≤ (200 * r.covered + r.total) / (2 * r.total) + 1 ∧
      (200 * r.covered + r.total) / (2 * r.total) ≤ n + 1

/-- Reports of any size have percentages that are shares of a hundred, as far as decimal
numbers go. -/
theorem proportionate (r : Report) :
  r.Proportionate
  where
  overflows_iff := r.percent?_eq_none_iff
  divides := by
    obtain empty | counted := Nat.eq_zero_or_pos r.total
    · exact .inl ⟨empty, percent?_of_empty empty⟩
    · exact .inr ⟨divisor_pos counted, tenTo_pos _, fun _ => eq_round_ratio counted⟩
  le_hundred _ := percent_le_hundred
  full whole more _ := percent_of_full whole more
  none := percent?_of_none
  covered_mono _ same le _ _ percent_r percent_s :=
    percent_le_of_covered_le percent_r percent_s same le
  uncovered_anti _ same le _ _ percent_r percent_s :=
    percent_le_of_uncovered_le percent_r percent_s same le
  near counted n percent := by
    rw [eq_round_ratio counted percent]
    apply round_ratio_near_halfUp counted

/-- A report in which everything is covered, and which has no percentage. -/
theorem percent?_of_overflow :
  let r : Report := ⟨10 ^ 999998, 0, []⟩
  0 < r.covered ∧ r.percent? = none ∧
    ¬ (r.uncovered = 0 → 0 < r.covered → r.percent? = some 100)
  := by
  intro r
  have positive : 0 < r.covered := by
    change 0 < 10 ^ 999998
    positivity
  have overflow : r.percent? = none := by
    have places : 1000000 = 999998 + 2 := rfl
    have hundred : 10 ^ 1000000 = r.covered * 10 ^ 2 := by rw [places, pow_add]
    -- The powers are kept away from arithmetic, which would write them out.
    have large (covered last : ℕ) : 2 * (covered * 10 ^ 2) ≤ 200 * covered + last := by omega
    rw [percent?_eq_none_iff, hundred]
    apply large
  refine ⟨positive, overflow, ?_⟩
  intro claimed
  have percent := claimed rfl positive
  rw [overflow] at percent
  cases percent

end TypeCoverage.Report
