import Mathlib.Algebra.Order.Field.Rat
import Mathlib.Tactic.FieldSimp
import Mathlib.Tactic.Linarith
import Mathlib.Tactic.Ring
import TypeCoverage.Decimal.Significant

/-!
# Quotients rounded to integers

Rounding to an integer moves a quotient by at most a half (`roundQuotient_near`), never past an
integer (`roundQuotient_le`, `le_roundQuotient`), and keeps the order of quotients
(`roundQuotient_mono`).
-/

namespace TypeCoverage.Decimal

/-- A quotient is rounded to its integer part or to the next integer, and to the next one
only if it is at least half-way there. -/
theorem roundQuotient_cases (mode : HalfWay) (num den : Nat) :
  roundQuotient mode num den = num / den ∨
    den ≤ 2 * (num % den) ∧ roundQuotient mode num den = num / den + 1
  := by
  unfold roundQuotient
  dsimp only
  split
  · exact .inl rfl
  · next at_least =>
    have half : den ≤ 2 * (num % den) := Nat.le_of_not_lt at_least
    split
    · cases mode with
      | toEven =>
        obtain even | odd := Nat.mod_two_eq_zero_or_one (num / den)
        · left
          simp only [even, Nat.add_zero]
        · right
          simp only [odd, half, true_and]
      | up => exact .inr ⟨half, rfl⟩
    · exact .inr ⟨half, rfl⟩

/-- A quotient that is at most an integer is rounded to at most this integer. -/
theorem roundQuotient_le (mode : HalfWay) {num den m : Nat} (positive : 0 < den)
    (bound : num ≤ m * den) :
  roundQuotient mode num den ≤ m
  := by
  have le : num / den ≤ m := Nat.div_le_of_le_mul (by rwa [Nat.mul_comm])
  obtain down | ⟨half, up⟩ := roundQuotient_cases mode num den
  · rwa [down]
  · rw [up]
    have whole := Nat.div_add_mod' num den
    apply Nat.lt_of_le_of_ne le
    rintro same
    rw [same] at whole
    omega

/-- A quotient that is at least an integer is rounded to at least this integer. -/
theorem le_roundQuotient (mode : HalfWay) {num den m : ℕ} (positive : 0 < den)
    (bound : m * den ≤ num) :
  m ≤ roundQuotient mode num den
  := by
  have le : m ≤ num / den := (Nat.le_div_iff_mul_le positive).mpr bound
  obtain down | ⟨-, up⟩ := roundQuotient_cases mode num den
  · rwa [down]
  · rw [up]
    apply Nat.le_succ_of_le le

/-- A quotient is rounded down if it is at most half-way to the next integer, and up if it is
at least half-way there. -/
theorem roundQuotient_nearest (mode : HalfWay) (num den : ℕ) :
  (roundQuotient mode num den = num / den ∧ 2 * (num % den) ≤ den) ∨
    (roundQuotient mode num den = num / den + 1 ∧ den ≤ 2 * (num % den))
  := by
  obtain down | ⟨half, up⟩ := roundQuotient_cases mode num den
  · by_cases near : 2 * (num % den) ≤ den
    · exact .inl ⟨down, near⟩
    · -- More than half-way, the quotient is not rounded down.
      unfold roundQuotient at down
      dsimp only at down
      rw [if_neg (by omega), if_neg (by omega)] at down
      omega
  · exact .inr ⟨up, half⟩

/-- Rounding to an integer moves a quotient by at most a half. -/
theorem roundQuotient_near (mode : HalfWay) (num : ℕ) {den : ℕ} (positive : 0 < den) :
  |(roundQuotient mode num den : ℚ) - num / den| ≤ 1 / 2
  := by
  have positive' : (0 : ℚ) < den := Nat.cast_pos.mpr positive
  have whole : ((num / den : ℕ) : ℚ) * den + (num % den : ℕ) = num := by
    exact_mod_cast Nat.div_add_mod' num den
  have difference : (roundQuotient mode num den : ℚ) - num / den =
      (roundQuotient mode num den * den - num) / den := by
    field_simp
  rw [difference, abs_le, le_div_iff₀ positive', div_le_iff₀ positive', ← whole]
  obtain ⟨down, near⟩ | ⟨up, near⟩ := roundQuotient_nearest mode num den
  · have near' : 2 * ((num % den : ℕ) : ℚ) ≤ den := by exact_mod_cast near
    rw [down]
    constructor <;> linarith
  · have near' : (den : ℚ) ≤ 2 * (num % den : ℕ) := by exact_mod_cast near
    have rest : ((num % den : ℕ) : ℚ) < den := by exact_mod_cast Nat.mod_lt num positive
    rw [up]
    push_cast
    constructor <;> linarith

/-- Half-way values up, a quotient is raised by a half and cut. -/
theorem roundQuotient_up_eq (num : ℕ) {den : ℕ} (positive : 0 < den) :
  roundQuotient .up num den = (2 * num + den) / (2 * den)
  := by
  have rest := Nat.mod_lt num positive
  have whole : 2 * num + den = 2 * (num % den) + den + num / den * (2 * den) := by
    have whole := Nat.div_add_mod' num den
    have twice : num / den * (2 * den) = 2 * (num / den * den) := Nat.mul_left_comm ..
    omega
  rw [whole, Nat.add_mul_div_right _ _ (by omega)]
  unfold roundQuotient
  dsimp only
  by_cases less : 2 * (num % den) < den
  · have cut : (2 * (num % den) + den) / (2 * den) = 0 := Nat.div_eq_of_lt (by omega)
    rw [if_pos less, cut, Nat.zero_add]
  · have cut : (2 * (num % den) + den) / (2 * den) = 1 :=
      Nat.div_eq_of_lt_le (by omega) (by omega)
    rw [if_neg less, ite_self, cut, Nat.add_comm]

/-- From half-way on, the next integer is taken after an odd one. -/
theorem succ_le_roundQuotient_iff {num den m : ℕ} (positive : 0 < den) (odd : m % 2 = 1) :
  m + 1 ≤ roundQuotient .toEven num den ↔ (2 * m + 1) * den ≤ 2 * num
  := by
  have whole := Nat.div_add_mod' num den
  have rest := Nat.mod_lt num positive
  obtain less | rfl | more := Nat.lt_trichotomy m (num / den)
  · have next : (m + 1) * den ≤ num := (Nat.le_div_iff_mul_le positive).mp less
    have twice : (2 * m + 1) * den + den = 2 * ((m + 1) * den) := by ring
    exact iff_of_true (le_roundQuotient _ positive next) (by omega)
  · have twice : (2 * (num / den) + 1) * den = 2 * (num / den * den) + den := by ring
    rw [twice, roundQuotient]
    split
    · omega
    · rw [odd]
      split <;> omega
  · have below : num < m * den := (Nat.div_lt_iff_lt_mul positive).mp more
    have twice : (2 * m + 1) * den = 2 * (m * den) + den := by ring
    have part := roundQuotient_le .toEven positive below.le
    exact iff_of_false (by omega) (by omega)

/-! ### The order -/

/-- Where two quotients with the same integer part are half-way, they are rounded alike. -/
theorem roundQuotient_eq_of_half (mode : HalfWay) {n₁ d₁ n₂ d₂ : ℕ} (same : n₁ / d₁ = n₂ / d₂)
    (half₁ : 2 * (n₁ % d₁) = d₁) (half₂ : 2 * (n₂ % d₂) = d₂) :
  roundQuotient mode n₁ d₁ = roundQuotient mode n₂ d₂
  := by
  unfold roundQuotient
  dsimp only
  rw [if_neg half₁.not_lt, if_pos half₁, if_neg half₂.not_lt, if_pos half₂, same]

theorem roundQuotient_of_more (mode : HalfWay) {n d : ℕ} (more : d < 2 * (n % d)) :
  roundQuotient mode n d = n / d + 1
  := by
  unfold roundQuotient
  dsimp only
  rw [if_neg more.le.not_gt, if_neg more.ne']

theorem roundQuotient_le_succ (mode : HalfWay) (n d : ℕ) :
  roundQuotient mode n d ≤ n / d + 1
  := by
  obtain down | ⟨-, up⟩ := roundQuotient_cases mode n d <;> omega

section

variable {n₁ d₁ n₂ d₂ : ℕ} (some₁ : 0 < d₁) (some₂ : 0 < d₂)

include some₁ some₂

/-- Two quotients with the same integer part are rounded in the order of their remainders. -/
theorem roundQuotient_le_of_div_eq (mode : HalfWay) (same : n₁ / d₁ = n₂ / d₂)
    (rest : n₁ % d₁ * d₂ ≤ n₂ % d₂ * d₁) :
  roundQuotient mode n₁ d₁ ≤ roundQuotient mode n₂ d₂
  := by
  obtain less | half | more := Nat.lt_trichotomy (2 * (n₁ % d₁)) d₁
  · obtain ⟨down, -⟩ | ⟨-, above⟩ := roundQuotient_nearest mode n₁ d₁
    · rw [down, same]
      apply le_roundQuotient mode some₂ (Nat.div_mul_le_self n₂ d₂)
    · omega
  · have at_least : d₂ ≤ 2 * (n₂ % d₂) := by
      apply Nat.le_of_mul_le_mul_right _ some₁
      calc d₂ * d₁
        _ = 2 * (n₁ % d₁ * d₂) := by rw [← Nat.mul_assoc, half, Nat.mul_comm]
        _ ≤ 2 * (n₂ % d₂) * d₁ := by
          rw [Nat.mul_assoc]
          apply Nat.mul_le_mul_left 2 rest
    obtain half₂ | more₂ := at_least.eq_or_lt
    · apply (roundQuotient_eq_of_half mode same half half₂.symm).le
    · rw [roundQuotient_of_more mode more₂, ← same]
      apply roundQuotient_le_succ
  · have more₂ : d₂ < 2 * (n₂ % d₂) := by
      apply Nat.lt_of_mul_lt_mul_right
      calc d₂ * d₁
        _ < 2 * (n₁ % d₁ * d₂) := by
          rw [← Nat.mul_assoc, Nat.mul_comm]
          apply Nat.mul_lt_mul_of_pos_right more some₂
        _ ≤ 2 * (n₂ % d₂) * d₁ := by
          rw [Nat.mul_assoc]
          apply Nat.mul_le_mul_left 2 rest
    rw [roundQuotient_of_more mode more, roundQuotient_of_more mode more₂, same]

/-- Rounding to an integer keeps the order of quotients. -/
theorem roundQuotient_mono (mode : HalfWay) (le : n₁ * d₂ ≤ n₂ * d₁) :
  roundQuotient mode n₁ d₁ ≤ roundQuotient mode n₂ d₂
  := by
  have whole₁ := Nat.div_add_mod' n₁ d₁
  have whole₂ := Nat.div_add_mod' n₂ d₂
  have parts : n₁ / d₁ ≤ n₂ / d₂ := by
    rw [Nat.le_div_iff_mul_le some₂]
    apply Nat.le_of_mul_le_mul_right _ some₁
    calc n₁ / d₁ * d₂ * d₁ = n₁ / d₁ * d₁ * d₂ := Nat.mul_right_comm ..
      _ ≤ n₁ * d₂ := Nat.mul_le_mul_right d₂ (Nat.div_mul_le_self n₁ d₁)
      _ ≤ n₂ * d₁ := le
  obtain less | same := parts.lt_or_eq
  · calc roundQuotient mode n₁ d₁
        ≤ n₁ / d₁ + 1 := roundQuotient_le_succ mode n₁ d₁
      _ ≤ n₂ / d₂ := less
      _ ≤ roundQuotient mode n₂ d₂ := le_roundQuotient mode some₂ (Nat.div_mul_le_self n₂ d₂)
  · apply roundQuotient_le_of_div_eq some₁ some₂ mode same
    rw [← whole₁, ← whole₂, same, Nat.add_mul, Nat.add_mul, Nat.mul_right_comm] at le
    omega

end

end TypeCoverage.Decimal
