/-!
# Powers and totals

`twoTo` and `tenTo` are the powers of two and of ten, and `total` adds up a list.  Both
powers are positive and grow by their base; a total of two lists is the sum of the two
totals.
-/

namespace TypeCoverage

/-- Two to a power. -/
def twoTo (n : Nat) : Nat := Nat.pow 2 n

/-- Ten to a power. -/
def tenTo (n : Nat) : Nat := Nat.pow 10 n

@[simp]
theorem twoTo_zero :
  twoTo 0 = 1
  := rfl

theorem twoTo_succ (n : Nat) :
  twoTo (n + 1) = twoTo n * 2
  := rfl

theorem twoTo_pos (n : Nat) :
  0 < twoTo n
  := Nat.pow_pos (by decide)

@[simp]
theorem tenTo_zero :
  tenTo 0 = 1
  := rfl

theorem tenTo_succ (n : Nat) :
  tenTo (n + 1) = tenTo n * 10
  := rfl

theorem tenTo_pos (n : Nat) :
  0 < tenTo n
  := Nat.pow_pos (by decide)

/-- The sum of a list of numbers. -/
def total : List Nat → Nat
  | [] => 0
  | n :: ns => n + total ns

@[simp]
theorem total_nil :
  total [] = 0
  := rfl

@[simp]
theorem total_cons (n : Nat) (ns : List Nat) :
  total (n :: ns) = n + total ns
  := rfl

@[simp]
theorem total_append (ms ns : List Nat) :
  total (ms ++ ns) = total ms + total ns
  := by
  induction ms with
  | nil => simp
  | cons m ms ih => simp [ih, Nat.add_assoc]

end TypeCoverage
