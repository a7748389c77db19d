import TypeCoverage.Proofs.Json.Written
import TypeCoverage.Proofs.Text.Kept
import TypeCoverage.Settings.Check

/-!
# Numerals of settings

The check of an integer takes many spellings of it: blanks may stand around a numeral, zeros and
underscores in it, and a fraction of zeros behind it.  The numeral that is written for an integer
has none of these, and the steps that clean a numeral leave it as it is.  So it is read back as
the integer, unless it has too many digits (`Field.checkNumeral_signedNumeral`).
-/

namespace TypeCoverage.Field

open Decimal
open Json (Whole)

/-- A digit is none of the other characters that may stand in a numeral. -/
theorem ne_of_isDigit {c d : Char} (digit : isDigit c = true) (other : isDigit d = false) :
  c ≠ d
  := by
  rintro rfl
  rw [digit] at other
  contradiction

theorem isWhite_of_isDigit {c : Char} (digit : isDigit c = true) :
  Text.isWhite c = false
  := by
  rw [← Bool.not_eq_true]
  intro white
  have ink := isBlank_of_isDigit digit
  rw [Text.isBlank_of_isWhite white] at ink
  contradiction

variable {ds : List Char}

/-! ### Cleaning a numeral that is clean -/

theorem dropLeadingZeros_of_whole (whole : Whole ds) :
  dropLeadingZeros ds = some ds
  := by
  obtain ⟨⟨nonempty, digits⟩, canonical⟩ := whole
  cases ds with
  | nil => contradiction
  | cons c cs =>
    by_cases zero : c = '0'
    · rw [canonical (by rw [zero]; rfl)]
      rfl
    · rw [dropLeadingZeros, digits c List.mem_cons_self]
      · rfl
      · apply zero

theorem dropZeroFraction_of_digits (digits : ∀ c ∈ ds, isDigit c = true) :
  dropZeroFraction ds = ds
  := by
  have pointless : ds.dropWhile (· ≠ '.') = [] := by
    rw [List.dropWhile_eq_nil_iff]
    intro c mem
    simpa using ne_of_isDigit (digits c mem) (by decide)
  rw [dropZeroFraction, pointless]

theorem dropUnderscores_of_digits (digits : ∀ c ∈ ds, isDigit c = true) :
  dropUnderscores ds = ds
  := by
  rw [dropUnderscores]
  split
  · rfl
  · rw [List.filter_eq_self]
    intro c mem
    simpa using ne_of_isDigit (digits c mem) (by decide)

/-- A clean numeral is not changed, with or without a minus sign. -/
theorem plainNumeral?_of_whole (whole : Whole ds) :
  plainNumeral? ds = some ds ∧ plainNumeral? ('-' :: ds) = some ('-' :: ds)
  := by
  have digits := whole.digits.2
  have clean : (dropLeadingZeros ds).map (fun cs => dropUnderscores (dropZeroFraction cs)) =
      some ds := by
    rw [dropLeadingZeros_of_whole whole, Option.map_some, dropZeroFraction_of_digits digits,
      dropUnderscores_of_digits digits]
  have ink : ∀ c ∈ ds, Text.isWhite c = false := fun c mem => isWhite_of_isDigit (digits c mem)
  constructor
  · rw [plainNumeral?, Text.trimBy_eq_self ink]
    split
    · exact absurd (digits '+' List.mem_cons_self) (by decide)
    · exact absurd (digits '+' List.mem_cons_self) (by decide)
    · exact absurd (digits '-' List.mem_cons_self) (by decide)
    · apply clean
  · rw [plainNumeral?, Text.trimBy_eq_self (List.forall_mem_cons.mpr ⟨by decide, ink⟩)]
    simp only [clean, Option.map_some]

/-! ### Reading it -/

/-- A clean numeral is read as its number. -/
theorem plainInteger?_of_whole (whole : Whole ds) (short : ds.length ≤ numeralLimit) :
  plainInteger? ds = some (readDigits ds : Int) ∧
    plainInteger? ('-' :: ds) = some (-(readDigits ds : Int))
  := by
  obtain ⟨⟨nonempty, digits⟩, canonical⟩ := whole
  have filled : ds.isEmpty = false := List.isEmpty_eq_false_iff.mpr nonempty
  have pure : ds.any (!isDigit ·) = false := by
    rw [List.any_eq_false]
    intro c mem
    simp [digits c mem]
  have unpadded : (decide (ds = ['0']) || decide (ds.head? ≠ some '0')) = true := by
    by_cases zero : ds.head? = some '0'
    · simp [canonical zero]
    · simp [zero]
  have few : decide (numeralLimit < ds.length) = false := by
    simpa using short
  constructor
  · rw [plainInteger?, filled, pure, unpadded, few]
    · rfl
    · rintro rest rfl
      exact absurd (digits '-' List.mem_cons_self) (by decide)
  · rw [plainInteger?, filled, pure, unpadded, few]
    rfl

theorem isTooLong_of_digits (digits : ∀ c ∈ ds, isDigit c = true)
    (short : ds.length ≤ numeralLimit) :
  isTooLong ds = false ∧ isTooLong ('-' :: ds) = false
  := by
  have few : decide (numeralLimit < (ds.takeWhile isDigit).length) = false := by
    rw [List.takeWhile_eq_self_iff.mpr digits]
    simpa using short
  constructor
  · rw [isTooLong, few, Bool.and_false]
    rintro rest rfl
    exact absurd (digits '-' List.mem_cons_self) (by decide)
  · rw [isTooLong, few, Bool.and_false]

/-- The numeral of an integer with no more digits than are allowed is read back. -/
theorem checkNumeral_signedNumeral {n : Int} (short : digitCount n.natAbs ≤ numeralLimit) :
  checkNumeral (signedNumeral n) = .ok n
  := by
  have whole := Json.whole_numeral n.natAbs
  rw [← length_numeral] at short
  obtain ⟨positive, negative⟩ := isTooLong_of_digits whole.digits.2 short
  rw [signedNumeral]
  split
  · next below =>
    have value : -(readDigits (numeral n.natAbs).toList : Int) = n := by
      rw [readDigits_numeral]
      omega
    have text : ("-" ++ numeral n.natAbs).toList = '-' :: (numeral n.natAbs).toList := by
      rw [String.toList_append]
      rfl
    rw [checkNumeral, text, negative, (plainNumeral?_of_whole whole).2, Option.bind_some,
      (plainInteger?_of_whole whole short).2, value]
    rfl
  · next above =>
    have value : (readDigits (numeral n.natAbs).toList : Int) = n := by
      rw [readDigits_numeral]
      omega
    rw [checkNumeral, positive, (plainNumeral?_of_whole whole).1, Option.bind_some,
      (plainInteger?_of_whole whole short).1, value]
    rfl

end TypeCoverage.Field
