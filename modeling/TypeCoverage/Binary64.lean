import TypeCoverage.Decimal.Digits
import TypeCoverage.Text.Blank

/-!
# Binary floating-point numbers

`Binary64` holds the numbers of the 64-bit binary format: a sign, a mantissa below `2 ^ 53`
and a power of two from `2 ^ (-1074)` on, two infinities, and an undefined number.
`ofRatio` rounds a quotient to the nearest of them, half-way values to the even mantissa,
and numerals are read through it.  All arithmetic is exact arithmetic of natural numbers.

A number is written in two ways: `shortest` with the fewest digits that read back as the
same number, positionally from `0.0001` to below `10 ^ 16`, and `tenths` with one place.
-/

namespace TypeCoverage

open Decimal

/-- A number of the 64-bit binary format; a finite one is `mantissa * 2 ^ exponent`. -/
inductive Binary64 where
  | undefined
  | infinite (negative : Bool)
  | finite (negative : Bool) (mantissa : Nat) (exponent : Int)
  deriving DecidableEq, Repr

namespace Binary64

/-- The smallest exponent. -/
def minExponent : Int := -1074

/-- The largest exponent. -/
def maxExponent : Int := 971

/-- Zero, with its sign. -/
def zero (negative : Bool) : Binary64 := .finite negative 0 minExponent

/-- `num / den` over two to the `exponent`, as a numerator and a denominator. -/
def quotientAt (num den : Nat) (exponent : Int) : Nat × Nat :=
  (num * twoTo (-exponent).toNat, den * twoTo exponent.toNat)

/-- The exponent at which the integer part of a positive quotient has 53 bits, but no
less than the smallest one. -/
def leadingExponent (num den : Nat) : Int :=
  let guess : Int := (Nat.log2 num : Int) - Nat.log2 den - 53
  let (n, d) := quotientAt num den guess
  let exponent := if n / d < twoTo 53 then guess else guess + 1
  max exponent minExponent

/-- The number nearest to `num / den`, half-way values to the even mantissa. -/
def ofRatio (negative : Bool) (num den : Nat) : Binary64 :=
  if num = 0 then zero negative
  else
    let exponent := leadingExponent num den
    let (n, d) := quotientAt num den exponent
    let mantissa := roundQuotient .toEven n d
    let (mantissa, exponent) :=
      if mantissa = twoTo 53 then (twoTo 52, exponent + 1) else (mantissa, exponent)
    if maxExponent < exponent then .infinite negative else .finite negative mantissa exponent

/-- The number nearest to `digits * 10 ^ power`.  A value of 310 digits or more before the
point is infinite, and one that begins 330 places after it is zero. -/
def ofDecimal (negative : Bool) (digits : Nat) (power : Int) : Binary64 :=
  if digits = 0 then zero negative
  else
    let magnitude := (digitCount digits : Int) + power
    if 310 < magnitude then .infinite negative
    else if magnitude < -330 then zero negative
    else ofRatio negative (digits * tenTo power.toNat) (tenTo (-power).toNat)

/-- The number nearest to an integer. -/
def ofInt (n : Int) : Binary64 :=
  ofRatio (n < 0) n.natAbs 1

/-- A finite number with no fractional part, as an integer. -/
def toInt? : Binary64 → Option Int
  | .finite negative mantissa exponent =>
    let num := mantissa * twoTo exponent.toNat
    let den := twoTo (-exponent).toNat
    if num % den = 0 then
      let n : Int := num / den
      some (if negative then -n else n)
    else none
  | _ => none

/-- A number that is neither infinite nor undefined. -/
def isFinite : Binary64 → Bool
  | .finite .. => true
  | _ => false

/-- The product with a natural number, rounded. -/
def scale (k : Nat) : Binary64 → Binary64
  | .finite negative mantissa exponent =>
    ofRatio negative (mantissa * k * twoTo exponent.toNat) (twoTo (-exponent).toNat)
  | x => x

/-- The integer nearest to a finite number, half-way values to the even integer. -/
def round? : Binary64 → Option Int
  | .finite negative mantissa exponent =>
    let n : Int :=
      roundQuotient .toEven (mantissa * twoTo exponent.toNat) (twoTo (-exponent).toNat)
    some (if negative then -n else n)
  | _ => none

/-- A number that is zero or negative; the undefined number is neither. -/
def isNotPositive : Binary64 → Bool
  | .undefined => false
  | .infinite negative => negative
  | .finite negative mantissa _ => negative || mantissa = 0

/-! ## Shortest digits -/

/-- The set of real numbers that round to a finite number, over a common denominator:
the number itself, the lower and the upper end, and whether the ends belong to it. -/
structure Neighbourhood where
  value : Nat
  low : Nat
  high : Nat
  denominator : Nat
  closed : Bool

/-- The neighbourhood of `mantissa * 2 ^ exponent`.  Below a power of two the numbers lie
twice as dense, so the lower end is nearer. -/
def neighbourhood (mantissa : Nat) (exponent : Int) : Neighbourhood :=
  let unit := twoTo exponent.toNat
  let value := 4 * mantissa * unit
  let below := if mantissa = twoTo 52 && minExponent < exponent then unit else 2 * unit
  { value := value
    low := value - below
    high := value + 2 * unit
    denominator := 4 * twoTo (-exponent).toNat
    closed := mantissa % 2 = 0 }

/-- Whether `digits * 10 ^ power` lies in a neighbourhood. -/
def Neighbourhood.holds (s : Neighbourhood) (digits : Nat) (power : Int) : Bool :=
  let x := digits * tenTo power.toNat * s.denominator
  let scale := tenTo (-power).toNat
  if s.closed then s.low * scale ≤ x && x ≤ s.high * scale
  else s.low * scale < x && x < s.high * scale

/-- The digits on the grid of a power of ten that read back, nearest to the value; of two
equally near ones the even one. -/
def Neighbourhood.onGrid (s : Neighbourhood) (power : Int) : Option Nat :=
  let num := s.value * tenTo (-power).toNat
  let den := s.denominator * tenTo power.toNat
  let nearest := roundQuotient .toEven num den
  let floor := num / den
  let other := if nearest = floor then floor + 1 else floor
  if 0 < nearest && s.holds nearest power then some nearest
  else if 0 < other && s.holds other power then some other
  else none

/-- The digits on the first grid, from coarse to fine, that holds a point which reads
back, with the power of ten of that grid. -/
def Neighbourhood.firstGrid (s : Neighbourhood) (power : Int) : Nat → Nat × Int
  | 0 => ((s.onGrid power).getD 0, power)
  | finer + 1 =>
    match s.onGrid power with
    | some digits => (digits, power)
    | none => s.firstGrid (power - 1) finer

/-- Drops the zeros at the end of a numeral and adds them to the power of ten. -/
def dropZeros : Nat → Nat → Int → Nat × Int
  | 0, digits, power => (digits, power)
  | fuel + 1, digits, power =>
    if digits ≠ 0 && digits % 10 = 0 then dropZeros fuel (digits / 10) (power + 1)
    else (digits, power)

/-- The fewest digits that read back as a positive finite number, and their power of
ten. -/
def shortestDigits (mantissa : Nat) (exponent : Int) : Nat × Int :=
  let s := neighbourhood mantissa exponent
  let places : Int := (digitCount s.value : Int) - digitCount s.denominator
  let (digits, power) := s.firstGrid (places + 1) 20
  dropZeros 20 digits power

/-- A numeral with a point, from `0.0001` to below `10 ^ 16`, and with an exponent of at
least two digits outside. -/
def layout (digits : Nat) (power : Int) : String :=
  let ds := (numeral digits).toList
  let point : Int := ds.length + power
  let text : List Char :=
    if -4 < point && point ≤ 16 then
      if point ≤ 0 then '0' :: '.' :: (List.replicate (-point).toNat '0' ++ ds)
      else if point < ds.length then
        ds.take point.toNat ++ '.' :: ds.drop point.toNat
      else ds ++ List.replicate (point.toNat - ds.length) '0' ++ ['.', '0']
    else
      let tail := match ds.drop 1 with
        | [] => []
        | rest => '.' :: rest
      let shown := point - 1
      let exponentDigits := (numeral shown.natAbs).toList
      ds.take 1 ++ tail ++ 'e' :: (if shown < 0 then '-' else '+')
        :: (if exponentDigits.length < 2 then '0' :: exponentDigits else exponentDigits)
  String.ofList text

/-- The shortest numeral that reads back as the same number. -/
def shortest : Binary64 → String
  | .undefined => "nan"
  | .infinite negative => if negative then "-inf" else "inf"
  | .finite negative mantissa exponent =>
    let body :=
      if mantissa = 0 then "0.0"
      else
        let (digits, power) := shortestDigits mantissa exponent
        layout digits power
    if negative then "-" ++ body else body

/-- A number with one place after the point, half-way values to the even digit. -/
def tenths : Binary64 → String
  | .undefined => "nan"
  | .infinite negative => if negative then "-inf" else "inf"
  | .finite negative mantissa exponent =>
    let n := roundQuotient .toEven (10 * mantissa * twoTo exponent.toNat) (twoTo (-exponent).toNat)
    let body := numeral (n / 10) ++ "." ++ numeral (n % 10)
    if negative then "-" ++ body else body

/-! ## Reading a numeral -/

/-- Splits a sign off a list of characters; the answer is whether it was a minus. -/
def splitSign : List Char → Bool × List Char
  | '-' :: cs => (true, cs)
  | '+' :: cs => (false, cs)
  | cs => (false, cs)

/-- The digits at the front of a list of characters, without single underscores between
them, and what follows. -/
def spanDigits : List Char → List Char × List Char
  | [] => ([], [])
  | '_' :: c :: cs =>
    if isDigit c then
      let (ds, rest) := spanDigits cs
      (c :: ds, rest)
    else ([], '_' :: c :: cs)
  | c :: cs =>
    if isDigit c then
      let (ds, rest) := spanDigits cs
      (c :: ds, rest)
    else ([], c :: cs)

/-- Digits that do not begin with an underscore. -/
def spanNumeral (cs : List Char) : List Char × List Char :=
  match cs with
  | '_' :: _ => ([], cs)
  | _ => spanDigits cs

/-- The exponent at the end of a numeral: nothing, or `e` with a sign and digits. -/
def readExponent? : List Char → Option Int
  | [] => some 0
  | e :: cs =>
    if e = 'e' || e = 'E' then
      let (negative, cs) := splitSign cs
      let (digits, rest) := spanNumeral cs
      if digits.isEmpty || !rest.isEmpty then none
      else
        let n : Int := readDigits digits
        some (if negative then -n else n)
    else none

/-- Reads an unsigned numeral: digits with an optional point and an optional exponent. -/
def readMagnitude? (negative : Bool) (cs : List Char) : Option Binary64 :=
  let (whole, rest) := spanNumeral cs
  let (fraction, rest) := match rest with
    | '.' :: rest => spanNumeral rest
    | rest => ([], rest)
  if whole.isEmpty && fraction.isEmpty then none
  else (readExponent? rest).map fun power =>
    ofDecimal negative (readDigits (whole ++ fraction)) (power - fraction.length)

/-- Reads a number: a numeral, or a name of an infinite or the undefined number in any
letter case, with an optional sign and blanks around it. -/
def ofText? (s : String) : Option Binary64 :=
  let (negative, cs) := splitSign (Text.trimBy Text.isBlank s.toList)
  let word := String.ofList (cs.map Char.toLower)
  if word = "inf" || word = "infinity" then some (.infinite negative)
  else if word = "nan" then some .undefined
  else readMagnitude? negative cs

end Binary64

end TypeCoverage
