import TypeCoverage.Binary64
import TypeCoverage.Decimal.Significant
import TypeCoverage.Shell.Numeral

/-!
# Formatted output

Escapes stand for characters of their own.  A format is a text with escapes and with
directives, each of which lays out an argument; `run` goes through a format until no
argument is left.  An argument that is no number leaves a warning and goes on; a directive
that is none ends everything.  A `Style` says in which words that is told.
-/

namespace TypeCoverage.Shell.Format

open Decimal

/-! ## Escapes -/

/-- The value of an octal digit. -/
def octal? (c : Char) : Option Nat := digitIn? 8 c

/-- Up to `width` digits in a base, after those that have been read. -/
def readShort (base : Nat) : Nat → Nat → List Char → Nat × List Char
  | 0, n, cs => (n, cs)
  | _ + 1, n, [] => (n, [])
  | width + 1, n, c :: cs =>
    match digitIn? base c with
    | some d => readShort base width (n * base + d) cs
    | none => (n, c :: cs)

/-- The character of a byte. -/
def byteChar (n : Nat) : Char := Char.ofNat (n % 256)

/-- The character of a named escape. -/
def named? (c : Char) : Option Char :=
  match c with
  | 'a' => some '\x07'
  | 'b' => some '\x08'
  | 'e' => some '\x1b'
  | 'f' => some '\x0c'
  | 'n' => some '\n'
  | 'r' => some '\r'
  | 't' => some '\t'
  | 'v' => some '\x0b'
  | '\\' => some '\\'
  | _ => none

/-- The character that an escape stands for, and what follows it; the text begins behind
the backslash.  A backslash in front of anything else stands for itself. -/
def escape (cs : List Char) : Char × List Char :=
  match cs with
  | [] => ('\\', [])
  | c :: rest =>
    match named? c with
    | some d => (d, rest)
    | none =>
      if (octal? c).isSome then
        let (n, rest) := readShort 8 3 0 cs
        (byteChar n, rest)
      else ('\\', cs)

/-- The characters of a text with escapes, and whether `\c` has ended it.  An octal escape
may begin with one more zero; `wide` adds the escape `\x`. -/
def unescape (wide : Bool) : Nat → List Char → List Char × Bool
  | 0, _ => ([], false)
  | fuel + 1, cs =>
    let go (c : Char) (rest : List Char) : List Char × Bool :=
      let (more, ended) := unescape wide fuel rest
      (c :: more, ended)
    match cs with
    | [] => ([], false)
    | '\\' :: 'c' :: _ => ([], true)
    | '\\' :: '0' :: d :: rest =>
      let (c, rest) := escape (if (octal? d).isSome then d :: rest else '0' :: d :: rest)
      go c rest
    | '\\' :: x :: d :: rest =>
      if wide && x = 'x' && (digitIn? 16 d).isSome then
        let (n, rest) := readShort 16 2 0 (d :: rest)
        go (byteChar n) rest
      else
        let (c, rest) := escape (x :: d :: rest)
        go c rest
    | '\\' :: rest =>
      let (c, rest) := escape rest
      go c rest
    | c :: rest => go c rest

/-- The text of a text with escapes, and whether `\c` has ended it. -/
def unescaped (wide : Bool) (s : String) : String × Bool :=
  let (cs, ended) := unescape wide (s.length + 1) s.toList
  (String.ofList cs, ended)

/-! ## Laying out -/

/-- What a directive says besides its letter. -/
structure Directive where
  flags : List Char
  width : Nat := 0
  precision? : Option Nat := none

namespace Directive

/-- Whether a flag is set. -/
def has (d : Directive) (flag : Char) : Bool := d.flags.contains flag

/-- Fills a text with spaces to the width, on the side that the flags say. -/
def fill (d : Directive) (cs : List Char) : List Char :=
  let spaces := List.replicate (d.width - cs.length) ' '
  if d.has '-' then cs ++ spaces else spaces ++ cs

/-- Fills a number to the width, with zeros behind its front if `zeros` lets them stand
there. -/
def fillNumber (d : Directive) (zeros : Bool) (front cs : List Char) : List Char :=
  if zeros && d.has '0' && !d.has '-' then
    front ++ List.replicate (d.width - front.length - cs.length) '0' ++ cs
  else d.fill (front ++ cs)

/-- The sign of a number. -/
def sign (d : Directive) (negative : Bool) : List Char :=
  if negative then ['-'] else if d.has '+' then ['+'] else if d.has ' ' then [' '] else []

/-- An integer in a base. -/
def integer (d : Directive) (signed : Bool) (base : Nat) (capital : Bool) (n : Int) :
    List Char :=
  let size := n.natAbs
  let ds := if d.precision? = some 0 && size = 0 then [] else Nat.toDigits base size
  let ds := List.replicate ((d.precision?.getD 0) - ds.length) '0' ++ ds
  let ds := if base = 8 && d.has '#' && ds.head? ≠ some '0' then '0' :: ds else ds
  let front := (if signed then d.sign (n < 0) else [])
    ++ (if base = 16 && d.has '#' && size ≠ 0 then ['0', 'x'] else [])
  let (front, ds) := if capital then (front.map Char.toUpper, ds.map Char.toUpper) else (front, ds)
  d.fillNumber d.precision?.isNone front ds

/-- A number with a point in front of its last digits. -/
def pointed (d : Directive) (n places : Nat) : List Char :=
  let ds := (numeral n).toList
  let ds := List.replicate (places + 1 - ds.length) '0' ++ ds
  let whole := ds.take (ds.length - places)
  if places = 0 then (if d.has '#' then whole ++ ['.'] else whole)
  else whole ++ '.' :: ds.drop (ds.length - places)

/-- The exponent of a number, with a letter and at least two digits. -/
def exponentText (letter : Char) (digits : Nat) (n : Int) : List Char :=
  let ds := (numeral n.natAbs).toList
  letter :: (if n < 0 then '-' else '+') :: (List.replicate (digits - ds.length) '0' ++ ds)

/-- The digits of a quotient, one in front of the point and the given places behind it, and
its power of ten. -/
def scientific (places num den : Nat) : Nat × Int :=
  if num = 0 then (0, 0)
  else
    let exponent := leadingExponent (places + 1) num den
    let (n, d) := quotientAt num den exponent
    let coefficient := roundQuotient .toEven n d
    if coefficient = tenTo (places + 1) then (coefficient / 10, exponent + places + 1)
    else (coefficient, exponent + places)

/-- A quotient as a number with an exponent. -/
def withExponent (d : Directive) (places num den : Nat) : List Char :=
  let (n, power) := scientific places num den
  d.pointed n places ++ exponentText 'e' 2 power

/-- A quotient as a number without an exponent. -/
def withoutExponent (d : Directive) (places num den : Nat) : List Char :=
  d.pointed (roundQuotient .toEven (num * tenTo places) den) places

/-- Drops the zeros behind the point of a number, and the point if nothing follows it. -/
def dropZeros (cs : List Char) : List Char :=
  if cs.contains '.' then
    let cs := (cs.reverse.dropWhile (· = '0')).reverse
    if cs.getLast? = some '.' then cs.dropLast else cs
  else cs

/-- A quotient to a number of significant digits, in the shorter way. -/
def general (d : Directive) (digits num den : Nat) : List Char :=
  let digits := max digits 1
  let (n, power) := scientific (digits - 1) num den
  let trim (cs : List Char) : List Char := if d.has '#' then cs else dropZeros cs
  if -4 ≤ power && power < digits then
    trim (d.withoutExponent ((digits : Int) - 1 - power).toNat num den)
  else trim (d.pointed n (digits - 1)) ++ exponentText 'e' 2 power

/-- A number in base sixteen, `mantissa * 2 ^ exponent`, with a power of two. -/
def hexadecimal (d : Directive) (mantissa : Nat) (exponent : Int) : List Char :=
  let power : Int := if mantissa = 0 then 0 else exponent + 52
  let places := d.precision?.getD 13
  let n := if places < 13 then roundQuotient .toEven mantissa (twoTo (4 * (13 - places)))
    else mantissa * twoTo (4 * (places - 13))
  let unit := twoTo (4 * places)
  let ds := Nat.toDigits 16 (n % unit)
  let ds := List.replicate (places - ds.length) '0' ++ (if places = 0 then [] else ds)
  let ds := if d.precision?.isNone then (ds.reverse.dropWhile (· = '0')).reverse else ds
  let whole := Nat.toDigits 16 (n / unit)
  whole ++ (if ds.isEmpty && !d.has '#' then [] else '.' :: ds) ++ exponentText 'p' 1 power

/-- A number as a letter says. -/
def real (d : Directive) (letter : Char) (x : Binary64) : List Char :=
  let small := letter.toLower
  let (negative, zeros, front, cs) : Bool × Bool × List Char × List Char := match x with
    | .undefined => (false, false, [], "nan".toList)
    | .infinite negative => (negative, false, [], "inf".toList)
    | .finite negative mantissa exponent =>
      let num := mantissa * twoTo exponent.toNat
      let den := twoTo (-exponent).toNat
      let places := d.precision?.getD 6
      match small with
      | 'f' => (negative, true, [], d.withoutExponent places num den)
      | 'e' => (negative, true, [], d.withExponent places num den)
      | 'g' => (negative, true, [], d.general places num den)
      | _ => (negative, true, ['0', 'x'], d.hexadecimal mantissa exponent)
  let front := d.sign negative ++ front
  if letter = small then d.fillNumber zeros front cs
  else d.fillNumber zeros (front.map Char.toUpper) (cs.map Char.toUpper)

end Directive

/-! ## Arguments -/

/-- The words in which faults are told. -/
inductive Style where
  | shell
  | program
  deriving DecidableEq, Repr

/-- What is left of a number that a text begins with. -/
inductive Remainder where
  | nothing
  | all
  | some
  | tooLarge
  deriving DecidableEq, Repr

/-- What is wrong with an argument that is to be a number. -/
def Style.warning? (style : Style) (text : String) : Remainder → Option String
  | .nothing => none
  | .all =>
    some (if style = .shell then text ++ ": expected numeric value"
      else "'" ++ text ++ "': expected a numeric value")
  | .some =>
    some (if style = .shell then text ++ ": not completely converted"
      else "'" ++ text ++ "': value not completely converted")
  | .tooLarge =>
    some (if style = .shell then text ++ ": Numerical result out of range"
      else "'" ++ text ++ "': Numerical result out of range")

/-- The code of the character behind a quotation mark. -/
def quotedCode? : List Char → Option Nat
  | '"' :: c :: _ => some c.toNat
  | '\'' :: c :: _ => some c.toNat
  | ['"'] => some 0
  | ['\''] => some 0
  | _ => none

/-- The integer that an argument begins with, and what is left of it. -/
def integerOf (signed : Bool) (s : String) : Int × Remainder :=
  match quotedCode? s.toList with
  | some n => (n, .nothing)
  | none =>
    match readInteger? true s.toList with
    | none => (0, if s.isEmpty then .nothing else .all)
    | some (n, rest) =>
      let most : Int := twoTo 64
      let isTooLarge := if signed then !hasWordSize n else most ≤ n.natAbs
      let value := if signed then clamp n
        else if isTooLarge then most - 1
        else if n < 0 then n + most
        else n
      (value, if !rest.isEmpty then .some else if isTooLarge then .tooLarge else .nothing)

/-- The digits in front of a text, with a point among them: the number that they write, how
many stand behind the point, and the text after them. -/
def readPointed? (base : Nat) (cs : List Char) : Option (Nat × Nat × List Char) :=
  let isPlace (c : Char) : Bool := (digitIn? base c).isSome
  let value (ds : List Char) : Nat := (readDigitsIn base ds).1
  let whole := cs.takeWhile isPlace
  let rest := cs.drop whole.length
  let (fraction, rest) := match rest with
    | '.' :: more =>
      let ds := more.takeWhile isPlace
      if whole.isEmpty && ds.isEmpty then ([], rest) else (ds, more.drop ds.length)
    | _ => ([], rest)
  if whole.isEmpty && fraction.isEmpty then none
  else some (value (whole ++ fraction), fraction.length, rest)

/-- An exponent in front of a text behind a letter, and the text after it. -/
def readPower (letter : Char) (cs : List Char) : Int × List Char :=
  match cs with
  | c :: rest =>
    if c.toLower ≠ letter then (0, cs)
    else
      let (negative, ds) := Binary64.splitSign rest
      let digits := ds.takeWhile isDigit
      let n : Int := readDigits digits
      if digits.isEmpty then (0, cs) else (if negative then -n else n, ds.drop digits.length)
  | [] => (0, cs)

/-- The number that a text begins with behind its sign, and the text after it. -/
def readReal? (negative : Bool) (cs : List Char) : Option (Binary64 × List Char) :=
  let begins (word : String) : Bool :=
    word.toList.isPrefixOf (cs.map Char.toLower)
  if begins "infinity" then some (.infinite negative, cs.drop 8)
  else if begins "inf" then some (.infinite negative, cs.drop 3)
  else if begins "nan" then some (.undefined, cs.drop 3)
  else
    let decimal? := (readPointed? 10 cs).map fun (n, places, rest) =>
      let (power, rest) := readPower 'e' rest
      (Binary64.ofDecimal negative n (power - places), rest)
    match begins "0x", readPointed? 16 (cs.drop 2) with
    | true, some (n, places, rest) =>
      let (power, rest) := readPower 'p' rest
      let power := max (-5000) (min 5000 (power - 4 * places))
      some (.ofRatio negative (n * twoTo power.toNat) (twoTo (-power).toNat), rest)
    | _, _ => decimal?

/-- The number that an argument begins with, and what is left of it. -/
def realOf (s : String) : Binary64 × Remainder :=
  match quotedCode? s.toList with
  | some n => (.ofInt n, .nothing)
  | none =>
    let (negative, cs) := Binary64.splitSign (s.toList.dropWhile isSpace)
    match readReal? negative cs with
    | none => (.zero false, if s.isEmpty then .nothing else .all)
    | some (x, rest) =>
      let isTooLarge := x matches .infinite _ && cs.any isDigit
      (x, if !rest.isEmpty then .some else if isTooLarge then .tooLarge else .nothing)

/-! ## Going through a format -/

/-- What has become of a format so far, the newest first. -/
structure Progress where
  args : List String
  isUsed : Bool := false
  output : List Char := []
  warnings : List String := []

/-- Why a format is not gone through to its end. -/
inductive Stop where
  | ended
  | fault (text : String)
  deriving DecidableEq, Repr

/-- A step through a format. -/
abbrev Printing (α : Type) : Type := ExceptT Stop (StateM Progress) α

/-- Writes characters. -/
def put (cs : List Char) : Printing Unit :=
  modify fun p => { p with output := cs.reverse ++ p.output }

/-- The next argument. -/
def next? : Printing (Option String) :=
  modifyGet fun p =>
    (p.args.head?, { p with args := p.args.drop 1, isUsed := p.isUsed || !p.args.isEmpty })

/-- Leaves a warning, if there is one. -/
def warn (text? : Option String) : Printing Unit :=
  modify fun p => { p with warnings := text?.toList ++ p.warnings }

/-- The next argument as an integer. -/
def nextInteger (style : Style) (signed : Bool) : Printing Int := do
  match ← next? with
  | none => return 0
  | some s =>
    let (n, left) := integerOf signed s
    warn (style.warning? s left)
    return n

/-- The next argument as a number. -/
def nextReal (style : Style) : Printing Binary64 := do
  match ← next? with
  | none => return .zero false
  | some s =>
    let (x, left) := realOf s
    warn (style.warning? s left)
    return x

/-- A width or a precision in front of a text: digits, or a star for an argument. -/
def readSize (style : Style) (cs : List Char) : Printing (Int × List Char) := do
  match cs with
  | '*' :: rest => return (← nextInteger style true, rest)
  | _ =>
    let ds := cs.takeWhile isDigit
    return (readDigits ds, cs.drop ds.length)

/-- A directive with its letter, and the text after it. -/
def readDirective (style : Style) (cs : List Char) :
    Printing (Directive × Option Char × List Char) := do
  let flags := cs.takeWhile fun c => c = '#' || c = '-' || c = '+' || c = ' ' || c = '0'
  let (width, rest) ← readSize style (cs.drop flags.length)
  let (precision?, rest) ← match rest with
    | '.' :: more => do
      let (n, rest) ← readSize style more
      pure (if n < 0 then none else some n.toNat, rest)
    | _ => pure (none, rest)
  let flags := if width < 0 then '-' :: flags else flags
  return (⟨flags, width.natAbs, precision?⟩, rest.head?, rest.drop 1)

/-- Lays out an argument as a letter says, if it says anything. -/
def layOut (style : Style) (d : Directive) (letter : Char) : Printing Bool := do
  let short (cs : List Char) : List Char :=
    match d.precision? with
    | some n => cs.take n
    | none => cs
  match letter with
  | 's' =>
    put (d.fill (short ((← next?).getD "").toList))
    return true
  | 'b' =>
    let (text, ended) := unescaped (style = .program) ((← next?).getD "")
    put (d.fill (short text.toList))
    if ended then throw .ended else return true
  | 'c' =>
    let s := (← next?).getD ""
    put (d.fill [s.toList.headD '\x00'])
    return true
  | _ =>
    if letter = 'd' || letter = 'i' then
      put (d.integer true 10 false (← nextInteger style true))
      return true
    else if letter = 'u' then
      put (d.integer false 10 false (← nextInteger style false))
      return true
    else if letter = 'o' then
      put (d.integer false 8 false (← nextInteger style false))
      return true
    else if letter = 'x' || letter = 'X' then
      put (d.integer false 16 (letter = 'X') (← nextInteger style false))
      return true
    else if "aAeEfFgG".toList.contains letter then
      put (d.real letter (← nextReal style))
      return true
    else return false

/-- Goes through a format once. -/
def pass (style : Style) : Nat → List Char → Printing Unit
  | 0, _ => return
  | fuel + 1, cs => do
    match cs with
    | [] => return
    | '\\' :: rest =>
      match style, rest with
      | .program, '"' :: rest =>
        put ['"']
        pass style fuel rest
      | .program, 'c' :: _ => throw .ended
      | _, _ =>
        let (c, rest) := escape rest
        put [c]
        pass style fuel rest
    | '%' :: '%' :: rest =>
      put ['%']
      pass style fuel rest
    | '%' :: rest =>
      let (d, letter?, after) ← readDirective style rest
      match letter? with
      | none => throw (.fault "missing format character")
      | some letter =>
        if ← layOut style d letter then pass style fuel after
        else
          let shown := String.ofList ('%' :: rest.take (rest.length - after.length))
          throw (.fault (shown ++ ": invalid directive"))
    | c :: rest =>
      put [c]
      pass style fuel rest

/-- Goes through a format until no argument is left, `rounds` times at most. -/
def passes (style : Style) (format : List Char) : Nat → Printing Unit
  | 0 => return
  | rounds + 1 => do
    modify fun p => { p with isUsed := false }
    pass style (format.length + 1) format
    let p ← get
    if p.isUsed && !p.args.isEmpty then passes style format rounds else return

/-- What a format and its arguments have become. -/
structure Printed where
  output : String
  warnings : List String
  fault? : Option String

/-- Lays out arguments by a format. -/
def run (style : Style) (format : String) (args : List String) : Printed :=
  let (result, p) := (passes style format.toList (args.length + 1)).run.run { args := args }
  { output := String.ofList p.output.reverse
    warnings := p.warnings.reverse
    fault? := match result with
      | .error (.fault text) => some text
      | _ => none }

end TypeCoverage.Shell.Format
