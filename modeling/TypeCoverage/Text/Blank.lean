/-!
# Blank characters

`isWhite` is the Unicode property `White_Space`.  `isBlank` adds the four separator
controls U+001C to U+001F, which the checker's output and the settings treat as blank.
`strip` removes the blank characters at both ends of a text, and `isAllBlank` holds of
a text that `strip` would empty.
-/

namespace TypeCoverage.Text

/-- The characters with the Unicode property `White_Space`. -/
def isWhite (c : Char) : Bool :=
  let n := c.toNat
  (9 ≤ n && n ≤ 13) || n == 0x20 || n == 0x85 || n == 0xA0 || n == 0x1680
    || (0x2000 ≤ n && n ≤ 0x200A) || n == 0x2028 || n == 0x2029 || n == 0x202F
    || n == 0x205F || n == 0x3000

/-- White space or one of the separator controls U+001C to U+001F. -/
def isBlank (c : Char) : Bool :=
  isWhite c || (0x1C ≤ c.toNat && c.toNat ≤ 0x1F)

theorem isBlank_of_isWhite {c : Char} (h : isWhite c = true) :
  isBlank c = true
  := by
  simp [isBlank, h]

/-- Removes the characters of a class from both ends of a list of characters. -/
def trimBy (p : Char → Bool) (cs : List Char) : List Char :=
  ((cs.dropWhile p).reverse.dropWhile p).reverse

/-- Removes the blank characters at both ends. -/
def strip (s : String) : String :=
  String.ofList (trimBy isBlank s.toList)

/-- A text without a character that is not blank. -/
def isAllBlank (s : String) : Bool :=
  s.toList.all isBlank

/-- Whether a list of characters occurs in another one as a contiguous part. -/
def occursIn (part : List Char) : List Char → Bool
  | [] => part.isEmpty
  | c :: cs => part.isPrefixOf (c :: cs) || occursIn part cs

end TypeCoverage.Text
