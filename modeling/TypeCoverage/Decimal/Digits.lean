import TypeCoverage.Power

/-!
# Decimal digits

`digitValue?` reads one ASCII digit and `readDigits` the digits of a numeral.  The number
of digits of a number is `digitCount`; it is one for zero.  `roundQuotient` rounds a
quotient to the nearest integer, and its mode says where a half goes.
-/

namespace TypeCoverage.Decimal

/-- The value of an ASCII decimal digit. -/
def digitValue? (c : Char) : Option Nat :=
  if '0'.toNat ≤ c.toNat && c.toNat ≤ '9'.toNat then some (c.toNat - '0'.toNat) else none

/-- An ASCII decimal digit. -/
def isDigit (c : Char) : Bool :=
  (digitValue? c).isSome

/-- The number written by the digits of a list of characters; other characters in it
are passed over. -/
def readDigits (cs : List Char) : Nat :=
  cs.foldl (fun n c => match digitValue? c with
    | some d => n * 10 + d
    | none => n) 0

/-- The decimal numeral of a natural number. -/
def numeral (n : Nat) : String := toString n

/-- The decimal numeral of an integer, with a minus sign if it is negative. -/
def signedNumeral (n : Int) : String :=
  if n < 0 then "-" ++ numeral n.natAbs else numeral n.natAbs

/-- The number of decimal digits. -/
def digitCount (n : Nat) : Nat :=
  if n < 10 then 1 else digitCount (n / 10) + 1

theorem digitCount_pos (n : Nat) :
  0 < digitCount n
  := by
  unfold digitCount
  split <;> omega

/-- A number has at most `k` digits exactly if it is below ten to the `k`. -/
theorem digitCount_le_iff (n k : Nat) (hk : 0 < k) :
  digitCount n ≤ k ↔ n < tenTo k
  := by
  induction k generalizing n with
  | zero => omega
  | succ k ih =>
    unfold digitCount
    split
    · next h =>
      have := tenTo_pos k
      rw [tenTo_succ]
      constructor <;> omega
    · next h =>
      by_cases hk' : k = 0
      · subst hk'
        have := digitCount_pos (n / 10)
        rw [tenTo_succ, tenTo_zero]
        constructor <;> omega
      · have := ih (n / 10) (by omega)
        rw [tenTo_succ]
        omega

/-- Where rounding sends a value half-way between two integers. -/
inductive HalfWay where
  | toEven
  | up
  deriving DecidableEq, Repr

/-- The integer nearest to `num / den`. -/
def roundQuotient (mode : HalfWay) (num den : Nat) : Nat :=
  let q := num / den
  let twice := 2 * (num % den)
  if twice < den then q
  else if twice = den then
    match mode with
    | .toEven => q + q % 2
    | .up => q + 1
  else q + 1

end TypeCoverage.Decimal
