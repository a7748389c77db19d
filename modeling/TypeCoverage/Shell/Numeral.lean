import TypeCoverage.Decimal.Digits

/-!
# Integers in texts

`readInteger` reads the integer that a text begins with: blanks, a sign and digits, in
base ten or in the base that the digits name by `0x` or `0` in front of them.  `integer?`
and `count?` ask that nothing else stands in the text and that the integer has 64 bits,
or that it is a small number that is not negative.
-/

namespace TypeCoverage.Shell

open Decimal

/-- A character that counts as a blank before and after a number. -/
def isSpace (c : Char) : Bool := c = ' ' || (9 ≤ c.toNat && c.toNat ≤ 13)

/-- The value of a digit in bases up to sixteen. -/
def digitIn? (base : Nat) (c : Char) : Option Nat :=
  let value :=
    if isDigit c then c.toNat - '0'.toNat
    else if 'a'.toNat ≤ c.toNat && c.toNat ≤ 'f'.toNat then c.toNat - 'a'.toNat + 10
    else if 'A'.toNat ≤ c.toNat && c.toNat ≤ 'F'.toNat then c.toNat - 'A'.toNat + 10
    else 16
  if value < base then some value else none

/-- The number that the digits in front of a text write, and the text after them. -/
def readDigitsIn (base : Nat) (cs : List Char) : Nat × List Char :=
  let digits := cs.takeWhile fun c => (digitIn? base c).isSome
  (digits.foldl (fun n c => n * base + (digitIn? base c).getD 0) 0, cs.drop digits.length)

/-- The number in front of a text and the text after it, in base ten or, with `anyBase`, in
the base that its beginning names. -/
def readNatural? (anyBase : Bool) (cs : List Char) : Option (Nat × List Char) :=
  let inBase (base : Nat) (cs : List Char) : Option (Nat × List Char) :=
    if (cs.head?.bind (digitIn? base)).isSome then some (readDigitsIn base cs) else none
  if !anyBase then inBase 10 cs
  else match cs with
    | '0' :: x :: rest =>
      if x = 'x' || x = 'X' then (inBase 16 rest).or (some (0, x :: rest))
      else inBase 8 cs
    | '0' :: rest => some (0, rest)
    | _ => inBase 10 cs

/-- The integer in front of a text, after blanks and a sign, and the text after it. -/
def readInteger? (anyBase : Bool) (cs : List Char) : Option (Int × List Char) :=
  match cs.dropWhile isSpace with
  | '-' :: rest => (readNatural? anyBase rest).map fun (n, rest) => (-(n : Int), rest)
  | '+' :: rest => (readNatural? anyBase rest).map fun (n, rest) => ((n : Int), rest)
  | rest => (readNatural? anyBase rest).map fun (n, rest) => ((n : Int), rest)

/-- The greatest integer of 64 bits. -/
def greatest : Int := twoTo 63 - 1

/-- The least integer of 64 bits. -/
def least : Int := -(twoTo 63 : Int)

/-- Whether an integer has 64 bits. -/
def hasWordSize (n : Int) : Bool := least ≤ n && n ≤ greatest

/-- The nearest integer of 64 bits. -/
def clamp (n : Int) : Int := if n < least then least else if greatest < n then greatest else n

/-- The integer of 64 bits that a text writes in base ten. -/
def integer? (s : String) : Option Int :=
  match readInteger? false s.toList with
  | some (n, rest) => if rest.all isSpace && hasWordSize n then some n else none
  | none => none

/-- The integer of 64 bits that a text writes in the base that it names; a blank text writes
zero. -/
def integerInAnyBase? (s : String) : Option Int :=
  match readInteger? true s.toList with
  | some (n, rest) => if rest.all isSpace && hasWordSize n then some n else none
  | none => if s.toList.all isSpace then some 0 else none

/-- The number that a text writes in base ten, if it is not negative and has 31 bits. -/
def count? (s : String) : Option Nat :=
  match integer? s with
  | some n => if 0 ≤ n && n < twoTo 31 then some n.toNat else none
  | none => none

end TypeCoverage.Shell
