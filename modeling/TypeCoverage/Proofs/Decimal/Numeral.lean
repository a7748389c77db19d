import Mathlib.Algebra.Group.Nat.Defs
import Mathlib.Data.List.Induction
import TypeCoverage.Decimal.Digits
import TypeCoverage.Text.Blank

/-!
# Numerals

A numeral consists of digits, as many as `digitCount` says, and begins with a zero only if
it is zero.  The digits of a numeral are read back as its number (`readDigits_numeral`).
Conversely a number that is read from digits has no more digits than there were
(`digitCount_readDigits_le`).
-/

namespace TypeCoverage.Decimal

theorem toList_numeral (n : Nat) :
  (numeral n).toList = Nat.toDigits 10 n
  := by simp [numeral]

/-- The numeral of a number below ten is its digit. -/
theorem toList_numeral_of_lt {n : Nat} (small : n < 10) :
  (numeral n).toList = [n.digitChar]
  := by rw [toList_numeral, Nat.toDigits_of_lt_base small]

/-- The last digit of a numeral stands behind the numeral of a tenth. -/
theorem toList_numeral_of_le {n : Nat} (large : 10 ≤ n) :
  (numeral n).toList = (numeral (n / 10)).toList ++ [(n % 10).digitChar]
  := by rw [toList_numeral, toList_numeral, Nat.toDigits_of_base_le (by decide) large]

theorem digitValue?_digitChar {n : Nat} (small : n < 10) :
  digitValue? n.digitChar = some n
  := by
  have zero : '0'.toNat = 48 := rfl
  have nine : '9'.toNat = 57 := rfl
  rw [digitValue?, Nat.toNat_digitChar_of_lt_ten small, zero, nine, if_pos]
  · rw [Nat.add_sub_cancel_left]
  · simp only [Bool.and_eq_true, decide_eq_true_eq]
    omega

theorem numeral_ne_nil (n : Nat) :
  (numeral n).toList ≠ []
  := by
  rw [toList_numeral]
  exact Nat.toDigits_ne_nil

theorem isDigit_of_mem_numeral {n : Nat} {c : Char} (mem : c ∈ (numeral n).toList) :
  isDigit c = true
  := by
  induction n using Nat.strongRecOn with
  | ind n ih =>
    by_cases small : n < 10
    · rw [toList_numeral_of_lt small, List.mem_singleton] at mem
      rw [mem, isDigit, digitValue?_digitChar small]
      rfl
    · rw [toList_numeral_of_le (Nat.le_of_not_lt small), List.mem_append,
        List.mem_singleton] at mem
      obtain mem | rfl := mem
      · exact ih (n / 10) (by omega) mem
      · rw [isDigit, digitValue?_digitChar (by omega)]
        rfl

theorem isBlank_of_isDigit {c : Char} (digit : isDigit c = true) :
  Text.isBlank c = false
  := by
  have range : '0'.toNat ≤ c.toNat ∧ c.toNat ≤ '9'.toNat := by
    simpa [isDigit, digitValue?] using digit
  have low : '0'.toNat = 48 := rfl
  have high : '9'.toNat = 57 := rfl
  rw [low, high] at range
  simp [Text.isBlank, Text.isWhite]
  omega

/-- Only the numeral of zero begins with a zero. -/
theorem eq_zero_of_head?_numeral {n : Nat} (zero : (numeral n).toList.head? = some '0') :
  n = 0
  := by
  induction n using Nat.strongRecOn with
  | ind n ih =>
    by_cases small : n < 10
    · rw [toList_numeral_of_lt small] at zero
      have value := digitValue?_digitChar small
      rw [Option.some.inj zero] at value
      exact (Option.some.inj value).symm
    · rw [toList_numeral_of_le (Nat.le_of_not_lt small)] at zero
      have tenth : n / 10 = 0 := by
        apply ih (n / 10) (by omega)
        cases digits : (numeral (n / 10)).toList with
        | nil => exact absurd digits (numeral_ne_nil _)
        | cons c cs =>
          rw [digits] at zero
          exact zero
      omega

theorem length_numeral (n : Nat) :
  (numeral n).toList.length = digitCount n
  := by
  induction n using Nat.strongRecOn with
  | ind n ih =>
    rw [digitCount]
    by_cases small : n < 10
    · rw [toList_numeral_of_lt small, if_pos small]
      rfl
    · rw [toList_numeral_of_le (Nat.le_of_not_lt small), if_neg small, List.length_append,
        ih (n / 10) (by omega)]
      rfl

theorem readDigits_concat (cs : List Char) (c : Char) :
  readDigits (cs ++ [c]) = match digitValue? c with
    | some d => readDigits cs * 10 + d
    | none => readDigits cs
  := by
  rw [readDigits, List.foldl_append]
  rfl

/-- A numeral is read back as its number. -/
theorem readDigits_numeral (n : Nat) :
  readDigits (numeral n).toList = n
  := by
  induction n using Nat.strongRecOn with
  | ind n ih =>
    by_cases small : n < 10
    · rw [toList_numeral_of_lt small, ← List.nil_append [_], readDigits_concat,
        digitValue?_digitChar small]
      exact Nat.zero_add n
    · rw [toList_numeral_of_le (Nat.le_of_not_lt small), readDigits_concat,
        digitValue?_digitChar (by omega), ih (n / 10) (by omega)]
      exact Nat.div_add_mod' n 10

theorem digitValue?_lt {c : Char} {d : Nat} (digit : digitValue? c = some d) :
  d < 10
  := by
  have zero : '0'.toNat = 48 := rfl
  have nine : '9'.toNat = 57 := rfl
  rw [digitValue?, zero, nine] at digit
  split at digit
  · next range =>
    simp only [Bool.and_eq_true, decide_eq_true_eq] at range
    have := Option.some.inj digit
    omega
  · contradiction

/-- The number that is read from some characters is below ten to their number. -/
theorem readDigits_lt (cs : List Char) :
  readDigits cs < tenTo cs.length
  := by
  induction cs using List.reverseRecOn with
  | nil => exact tenTo_pos 0
  | append_singleton cs c ih =>
    rw [readDigits_concat, List.length_append, List.length_singleton, tenTo_succ]
    cases digit : digitValue? c with
    | none => exact Nat.lt_of_lt_of_le ih (Nat.le_mul_of_pos_right _ (by decide))
    | some d =>
      have small := digitValue?_lt digit
      simp only
      omega

theorem digitCount_readDigits_le {cs : List Char} (nonempty : cs ≠ []) :
  digitCount (readDigits cs) ≤ cs.length
  := (digitCount_le_iff _ _ (List.length_pos_iff.mpr nonempty)).mpr (readDigits_lt cs)

theorem digitCount_le_of_lt_pow {n k : Nat} (pos : 0 < k) (small : n < 10 ^ k) :
  digitCount n ≤ k
  := by
  rw [digitCount_le_iff n k pos, tenTo, Nat.pow_eq]
  exact small

end TypeCoverage.Decimal
