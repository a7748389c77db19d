import TypeCoverage.Datum
import TypeCoverage.Toml.Scan

/-!
# Numbers, dates and times of settings files

A value that begins with a digit or a sign is a date with an optional time, a time, or a
number, in this order.  Digits may have single underscores between them.  A date has to
exist in the calendar.
-/

namespace TypeCoverage.Toml

open Decimal

/-- A number of `width` digits between two bounds. -/
def fixedDigits (width low high : Nat) (cs : List Char) : Option (Nat × List Char) :=
  let digits := cs.take width
  if digits.length = width && digits.all isDigit then
    let n := readDigits digits
    if low ≤ n && n ≤ high then some (n, cs.drop width) else none
  else none

/-- Removes an expected character. -/
def expect (c : Char) : List Char → Option (List Char)
  | d :: cs => if d = c then some cs else none
  | [] => none

/-- A time of day, with an optional fraction of a second. -/
def skipTime (cs : List Char) : Option (List Char) := do
  let (_, cs) ← fixedDigits 2 0 23 cs
  let (_, cs) ← fixedDigits 2 0 59 (← expect ':' cs)
  let (_, cs) ← fixedDigits 2 0 59 (← expect ':' cs)
  match cs with
  | '.' :: c :: rest =>
    return if isDigit c then rest.dropWhile isDigit else cs
  | _ => return cs

/-- An offset from universal time, if one stands here. -/
def skipOffset (cs : List Char) : List Char :=
  match cs with
  | 'Z' :: rest => rest
  | 'z' :: rest => rest
  | sign :: rest =>
    if sign = '+' || sign = '-' then
      let offset := do
        let (_, rest) ← fixedDigits 2 0 23 rest
        let (_, rest) ← fixedDigits 2 0 59 (← expect ':' rest)
        return rest
      offset.getD cs
    else cs
  | [] => cs

/-- The number of days of a month. -/
def daysIn (year month : Nat) : Nat :=
  if month = 2 then
    if year % 4 = 0 && (year % 100 ≠ 0 || year % 400 = 0) then 29 else 28
  else if month = 4 || month = 6 || month = 9 || month = 11 then 30
  else 31

/-- A date with an optional time: whether it exists, its kind and what follows. -/
def readDate (cs : List Char) : Option (Bool × Moment × List Char) := do
  let (year, cs) ← fixedDigits 4 0 9999 cs
  let (month, cs) ← fixedDigits 2 1 12 (← expect '-' cs)
  let (day, cs) ← fixedDigits 2 1 31 (← expect '-' cs)
  let exists? := 1 ≤ year && day ≤ daysIn year month
  let time := match cs with
    | c :: rest => if c = 'T' || c = 't' || c = ' ' then skipTime rest else none
    | [] => none
  match time with
  | some rest => return (exists?, .dateTime, skipOffset rest)
  | none => return (exists?, .date, cs)

/-- Digits of a class with single underscores between them, after the first one. -/
def moreDigits (p : Char → Bool) : List Char → List Char × List Char
  | '_' :: c :: cs =>
    if p c then
      let (ds, rest) := moreDigits p cs
      (c :: ds, rest)
    else ([], '_' :: c :: cs)
  | c :: cs =>
    if p c then
      let (ds, rest) := moreDigits p cs
      (c :: ds, rest)
    else ([], c :: cs)
  | [] => ([], [])

/-- At least one digit of a class. -/
def someDigits (p : Char → Bool) : List Char → Option (List Char × List Char)
  | c :: cs =>
    if p c then
      let (ds, rest) := moreDigits p cs
      some (c :: ds, rest)
    else none
  | [] => none

/-- The value of digits in a base up to sixteen. -/
def inBase (base : Nat) (digits : List Char) : Int :=
  digits.foldl (fun n c => n * base + ((Json.hexValue? c).getD 0 : Nat)) (0 : Nat)

/-- An integer in base two, eight or sixteen. -/
def readInBase : List Char → Option (Datum × List Char)
  | '0' :: 'x' :: cs => numberIn 16 cs
  | '0' :: 'b' :: cs => numberIn 2 cs
  | '0' :: 'o' :: cs => numberIn 8 cs
  | _ => none
where
  /-- Digits below a base. -/
  numberIn (base : Nat) (cs : List Char) : Option (Datum × List Char) :=
    (someDigits (fun c => (Json.hexValue? c).any (· < base)) cs).map fun (digits, rest) =>
      (.integer (inBase base digits), rest)

/-- The whole part of a decimal number. -/
def wholePart : List Char → Option (List Char × List Char)
  | '0' :: cs => some (['0'], cs)
  | cs => someDigits isDigit cs

/-- A fraction, if one stands here. -/
def fractionPart (cs : List Char) : Option (List Char) × List Char :=
  match cs with
  | '.' :: rest =>
    match someDigits isDigit rest with
    | some (digits, rest) => (some digits, rest)
    | none => (none, cs)
  | _ => (none, cs)

/-- An exponent, if one stands here. -/
def exponentPart (cs : List Char) : Option Int × List Char :=
  match cs with
  | e :: rest =>
    if e = 'e' || e = 'E' then
      let (negative, rest) := Binary64.splitSign rest
      match someDigits isDigit rest with
      | some (digits, rest) =>
        let n : Int := readDigits digits
        (some (if negative then -n else n), rest)
      | none => (none, cs)
    else (none, cs)
  | [] => (none, cs)

/-- The most digits of a decimal integer. -/
def digitLimit : Nat := 4300

/-- A decimal number. -/
def readDecimal (cs : List Char) : Option (Except Refusal (Datum × List Char)) :=
  let (negative, body) := Binary64.splitSign cs
  match wholePart body with
  | none => none
  | some (whole, rest) =>
    let (fraction?, rest) := fractionPart rest
    let (exponent?, rest) := exponentPart rest
    if fraction?.isNone && exponent?.isNone then
      if digitLimit < whole.length then some (.error .integerTooLong)
      else
        let n : Int := readDigits whole
        some (.ok (.integer (if negative then -n else n), rest))
    else
      let fraction := fraction?.getD []
      let power := exponent?.getD 0 - fraction.length
      some (.ok (.float (.ofDecimal negative (readDigits (whole ++ fraction)) power), rest))

/-- A name of an infinite or the undefined number. -/
def readNamedFloat (cs : List Char) : Scan Datum :=
  let (negative, body) := Binary64.splitSign cs
  match body with
  | 'i' :: 'n' :: 'f' :: rest => .ok (.float (.infinite negative), rest)
  | 'n' :: 'a' :: 'n' :: rest => .ok (.float .undefined, rest)
  | _ => malformed

/-- A date, a time or a number. -/
def readNumber (cs : List Char) : Scan Datum :=
  match readDate cs with
  | some (true, kind, rest) => .ok (.moment kind, rest)
  | some (false, _, _) => malformed
  | none =>
    match skipTime cs with
    | some rest => .ok (.moment .time, rest)
    | none =>
      match readInBase cs with
      | some answer => .ok answer
      | none =>
        match readDecimal cs with
        | some answer => answer
        | none => readNamedFloat cs

end TypeCoverage.Toml
