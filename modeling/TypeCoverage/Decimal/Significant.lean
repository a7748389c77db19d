import TypeCoverage.Decimal.Digits

/-!
# Decimal numbers within the limits of a context

A `Scaled` is a coefficient times a power of ten, and `Scaled.round` the nearest integer to
it, half-way values up.

A `Context` limits the digits of a coefficient and the exponents of the first digit.
`Context.nearest` gives a quotient to the digits of a context, or to fewer where the quotient
is too small for all of them, half-way values to the even coefficient.  A quotient that is
too large for the context has no result (`Context.round?`).
-/

namespace TypeCoverage.Decimal

/-- The number `coefficient * 10 ^ exponent`. -/
structure Scaled where
  coefficient : Nat
  exponent : Int
  deriving DecidableEq, Repr

/-- The numerator of a scaled number over `Scaled.denominator`. -/
def Scaled.numerator (x : Scaled) : Nat :=
  x.coefficient * tenTo x.exponent.toNat

/-- The power of ten under `Scaled.numerator`. -/
def Scaled.denominator (x : Scaled) : Nat :=
  tenTo (-x.exponent).toNat

/-- The nearest integer, half-way values up. -/
def Scaled.round (x : Scaled) : Nat :=
  roundQuotient .up x.numerator x.denominator

/-- The exponent of the first digit. -/
def Scaled.leading (x : Scaled) : Int :=
  x.exponent + digitCount x.coefficient - 1

/-- `num / den` over ten to the `exponent`, as a numerator and a denominator. -/
def quotientAt (num den : Nat) (exponent : Int) : Nat × Nat :=
  (num * tenTo (-exponent).toNat, den * tenTo exponent.toNat)

/-- The exponent at which the integer part of a positive quotient has `digits` digits. -/
def leadingExponent (digits num den : Nat) : Int :=
  let guess : Int := (digitCount num : Int) - digitCount den - digits
  let (n, d) := quotientAt num den guess
  if n / d < tenTo digits then guess else guess + 1

/-- The limits of decimal arithmetic: the digits of a coefficient, and the least and the
greatest exponent of a first digit. -/
structure Context where
  precision : Nat
  least : Int
  greatest : Int
  precision_pos : 0 < precision := by decide
  least_nonpos : least ≤ 0 := by decide
  greatest_nonneg : 0 ≤ greatest := by decide

namespace Context

variable (c : Context)

/-- The exponent of the last of all digits after the least first one. -/
def finest : Int := c.least - c.precision + 1

/-- The exponent of the last digit to which a positive quotient is given. -/
def exponent (num den : Nat) : Int := max (leadingExponent c.precision num den) c.finest

/-- A quotient to the digits of the context, half-way values to the even coefficient. -/
def nearest (num den : Nat) : Scaled :=
  if num = 0 then ⟨0, 0⟩
  else
    let exponent := c.exponent num den
    let (n, d) := quotientAt num den exponent
    ⟨roundQuotient .toEven n d, exponent⟩

/-- A quotient to the digits of the context, unless it is too large. -/
def round? (num den : Nat) : Option Scaled :=
  let x := c.nearest num den
  if c.greatest < x.leading then none else some x

end Context

end TypeCoverage.Decimal
