/-!
# Line boundaries

A line ends at a line feed, a carriage return, a vertical tab, a form feed, one of the
separators U+001C, U+001D, U+001E, the next-line control U+0085, or at U+2028 and U+2029.
`firstLine` is the text before the first of them.
-/

namespace TypeCoverage.Text

/-- The characters that end a line. -/
def isLineBreak (c : Char) : Bool :=
  let n := c.toNat
  (10 ≤ n && n ≤ 13) || (0x1C ≤ n && n ≤ 0x1E) || n == 0x85 || n == 0x2028 || n == 0x2029

/-- The text before the first line boundary. -/
def firstLine (s : String) : String :=
  String.ofList (s.toList.takeWhile fun c => !isLineBreak c)

/-- The pieces of a list of characters between the occurrences of a separator. -/
def splitAtChar (separator : Char) : List Char → List (List Char)
  | [] => [[]]
  | c :: cs =>
    if c = separator then [] :: splitAtChar separator cs
    else match splitAtChar separator cs with
      | [] => [[c]]
      | piece :: pieces => (c :: piece) :: pieces

theorem splitAtChar_ne_nil (separator : Char) (cs : List Char) :
  splitAtChar separator cs ≠ []
  := by
  cases cs with
  | nil => simp [splitAtChar]
  | cons c cs =>
    unfold splitAtChar
    split
    · simp
    · split <;> simp

end TypeCoverage.Text
