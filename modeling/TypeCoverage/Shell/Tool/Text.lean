import TypeCoverage.Shell.Format
import TypeCoverage.Shell.Tool.Basic

/-!
# Programs on text

Programs that write texts of their own or read bytes, line by line or as a whole, and write
something made of them.
-/

namespace TypeCoverage.Shell.Tool

open Decimal
open Action (say complain setStatus answer)

/-! ## Writing -/

/-- Whether an argument of `echo` consists of options. -/
def isEchoOption (s : String) : Bool :=
  match s.toList with
  | '-' :: c :: cs => (c :: cs).all fun d => d = 'n' || d = 'e' || d = 'E'
  | _ => false

/-- Writes its arguments, in which escapes are read only on request. -/
def echo : Tool := fun _ args => do
  let letters := (args.takeWhile isEchoOption).flatMap String.toList
  let text := String.intercalate " " (args.dropWhile isEchoOption)
  let reads := (letters.filter fun c => c = 'e' || c = 'E').getLast? = some 'e'
  let (text, ended) := if reads then Format.unescaped true text else (text, false)
  say (if letters.contains 'n' || ended then text else text ++ "\n")
  setStatus 0

/-- Writes its arguments by a format. -/
def printf : Tool := fun zero args => do
  match (if args.head? = some "--" then args.drop 1 else args) with
  | [] => misuse zero "missing operand" 1
  | format :: args =>
    let printed := Format.run .program format args
    say printed.output
    printed.warnings.forM (warn zero)
    match printed.fault? with
    | none => answer printed.warnings.isEmpty
    | some text => giveUp zero text 1

/-- How often `yes` writes its line before it counts as endless. -/
def yesLimit : Nat := 10000

/-- Writes a line without end. -/
def yes : Tool := fun _ args => do
  let line := Text.held (if args.isEmpty then "y" else String.intercalate " " args) ++ [10]
  put (List.replicate yesLimit line).flatten
  throw .endless

/-- A number that `seq` is given, with how many digits stand behind its point. -/
def seqNumber (zero s : String) : Action (Int × Nat) := do
  let (negative, cs) := Binary64.splitSign s.toList
  match Format.readPointed? 10 cs with
  | some (n, places, []) => return (if negative then -n else n, places)
  | _ => misuse zero ("invalid floating point argument: '" ++ s ++ "'") 1

/-- The numbers from one to another by a step. -/
def progression (last step : Int) : Nat → Int → List Int
  | 0, _ => []
  | count + 1, n =>
    if (if 0 < step then last < n else n < last) then []
    else n :: progression last step count (n + step)

/-- A number with a point in front of its last digits, filled with zeros to a width. -/
def decimalText (width places : Nat) (n : Int) : String :=
  let ds := (numeral n.natAbs).toList
  let ds := List.replicate (places + 1 - ds.length) '0' ++ ds
  let body := if places = 0 then ds
    else ds.take (ds.length - places) ++ '.' :: ds.drop (ds.length - places)
  let sign := if n < 0 then ['-'] else []
  String.ofList (sign ++ List.replicate (width - sign.length - body.length) '0' ++ body)

/-- Whether an argument of `seq` is a number, even with a dash in front. -/
def isSeqNumber (s : String) : Bool :=
  match s.toList with
  | '-' :: c :: _ => isDigit c || c = '.'
  | _ => false

/-- Writes the numbers of a progression. -/
def seq : Tool := fun zero args => do
  let front := args.takeWhile (!isSeqNumber ·)
  let (letters, operands) ← options zero 1 "s:w" [("separator", 's'), ("equal-width", 'w')] front
  let operands := operands ++ args.drop front.length
  let numbers ← operands.mapM (seqNumber zero)
  let (first, step, last) ← match numbers with
    | [last] => pure ((1, 0), (1, 0), last)
    | [first, last] => pure (first, (1, 0), last)
    | [first, step, last] => pure (first, step, last)
    | [] => misuse zero "missing operand" 1
    | _ => misuse zero ("extra operand '" ++ (operands[3]?).getD "" ++ "'") 1
  if step.1 = 0 then
    misuse zero ("invalid Zero increment value: '" ++ (operands[1]?).getD "" ++ "'") 1
  else
    let places := max first.2 step.2
    let scale (x : Int × Nat) : Int := x.1 * tenTo (max places last.2 - x.2)
    let unit : Int := tenTo (max places last.2 - places)
    let ns := progression (scale last) (scale step)
      (((scale last - scale first).natAbs / (scale step).natAbs) + 1) (scale first)
    let shown := ns.map (· / unit)
    let width := if Options.has letters 'w' then
        (shown.map fun n => (decimalText 0 places n).length).foldl max 0
      else 0
    let separator := (Options.value? letters 's').getD "\n"
    let texts := shown.map (decimalText width places)
    say (if texts.isEmpty then "" else String.intercalate separator texts ++ "\n")
    setStatus 0

/-! ## Copying -/

/-- A byte as `cat` shows it. -/
def visible (tabs others : Bool) (b : UInt8) : List UInt8 :=
  let caret (n : Nat) : List UInt8 :=
    if n < 32 then [94, (n + 64).toUInt8] else if n = 127 then [94, 63] else [n.toUInt8]
  if b = 10 then [10]
  else if b = 9 then (if tabs then [94, 73] else [9])
  else if !others then [b]
  else if 128 ≤ b then [77, 45] ++ caret (b.toNat - 128)
  else caret b.toNat

/-- Leaves out all but one of several empty lines in a row. -/
def squeeze : List (List UInt8) → List (List UInt8)
  | [10] :: [10] :: rest => squeeze ([10] :: rest)
  | line :: rest => line :: squeeze rest
  | [] => []
termination_by lines => lines.length

/-- Numbers lines; `filled` leaves the empty ones without a number. -/
def numbered (filled : Bool) : Nat → List (List UInt8) → List (List UInt8)
  | _, [] => []
  | n, line :: rest =>
    if filled && line = [10] then line :: numbered filled n rest
    else (Text.held (padded 6 n ++ "\t") ++ line) :: numbered filled (n + 1) rest

/-- Writes files one after another. -/
def cat : Tool := fun zero args => do
  let (letters, operands) ← options zero 1 "bnAETvestu" [("number", 'n'), ("show-all", 'A')] args
  setStatus 0
  let has (cs : String) : Bool := cs.toList.any (Options.has letters)
  let lines := linesOf (← gather zero (orInput operands))
  let lines := if has "s" then squeeze lines else lines
  let lines := lines.map fun line =>
    let shown := line.flatMap (visible (has "ATt") (has "Avet"))
    if has "AEe" && line.getLast? = some 10 then shown.dropLast ++ [36, 10] else shown
  put (if has "nb" then numbered (has "b") 1 lines else lines).flatten
  let m ← get
  if (orInput operands).contains "-" && (m.stream? 0).isNone then
    mishap zero "closing standard input: Bad file descriptor"

/-- What a program counts that writes a part of a file. -/
structure Extent where
  inBytes : Bool := false
  count : Nat := 10
  /-- Whether the number has a sign in front. -/
  isSigned : Bool := false

/-- The digits and the suffix of a count. -/
def countOf? (s : String) : Option Nat :=
  let ds := s.toList.takeWhile isDigit
  if ds.isEmpty then none
  else
    let n := readDigits ds
    match s.toList.drop ds.length with
    | [] => some n
    | ['b'] => some (n * 512)
    | ['k'] => some (n * 1024)
    | ['K'] => some (n * 1024)
    | ['M'] => some (n * 1024 * 1024)
    | ['k', 'B'] => some (n * 1000)
    | _ => none

/-- An extent with the sign that turns it around. -/
def extent (zero : String) (sign : Char) (letter : Char) (value : String) : Action Extent := do
  let isSigned := value.toList.head? = some sign
  let digits := if isSigned || value.startsWith "-" || value.startsWith "+"
    then (value.drop 1).toString else value
  match countOf? digits with
  | some n => return { inBytes := letter = 'c', count := n, isSigned := isSigned }
  | none =>
    giveUp zero ("invalid number of " ++ (if letter = 'c' then "bytes" else "lines") ++ ": '"
      ++ value ++ "'") 1

/-- The arguments of a program that takes a count right behind a dash, too. -/
def withCount (args : List String) : List String :=
  match args with
  | first :: rest =>
    match first.toList with
    | '-' :: c :: cs =>
      if isDigit c then
        let letter := if cs.contains 'c' then "-c" else "-n"
        letter :: String.ofList ((c :: cs).takeWhile isDigit) :: rest
      else args
    | _ => args
  | [] => []

/-- The extent and the operands of a program that writes a part of files, with whether names
are left out and whether they are always written. -/
def extentOf (zero : String) (sign : Char) (args : List String) :
    Action (Extent × List (Char × String) × List String) := do
  let (letters, operands) ← options zero 1 "c:n:qvfz"
    [("lines", 'n'), ("bytes", 'c'), ("quiet", 'q'), ("verbose", 'v')] (withCount args)
  let e ← match (letters.filter fun o => o.1 = 'c' || o.1 = 'n').getLast? with
    | some (letter, value) => extent zero sign letter value
    | none => pure {}
  return (e, letters, operands)

/-- Writes a part of each of some files, under its name if there are several. -/
def writeParts (zero : String) (letters : List (Char × String))
    (part : String → Action (Except String (List UInt8))) (isNamed : Bool) (isFirst : Bool) :
    List String → Action Unit
  | [] => return
  | operand :: operands => do
    let isNamed := (isNamed || Options.has letters 'v') && !Options.has letters 'q'
    match ← part operand with
    | .ok bytes =>
      if isNamed then
        let name := if operand = "-" then "standard input" else operand
        say ((if isFirst then "" else "\n") ++ "==> " ++ name ++ " <==\n")
      put bytes
      writeParts zero letters part isNamed false operands
    | .error why =>
      let name := if operand = "-" then "standard input" else operand
      mishap zero (if why = "Is a directory" then "error reading " ++ marked name ++ ": " ++ why
        else "cannot open " ++ marked name ++ " for reading: " ++ why)
      writeParts zero letters part isNamed isFirst operands

/-- The first lines of the input. -/
def takeLines : Nat → Action (List UInt8)
  | 0 => return []
  | count + 1 => do
    match (← get).takeLine? with
    | none => return []
    | some (line, isComplete, m) =>
      set m
      if isComplete then return terminated line ++ (← takeLines count) else return line

/-- The beginning of a file. -/
def headPart (e : Extent) (operand : String) : Action (Except String (List UInt8)) := do
  let m ← get
  let isInput := operand = "-" || operand = "/dev/stdin"
  if e.isSigned then
    return (← contents operand).map fun bytes =>
      if e.inBytes then bytes.take (bytes.length - e.count)
      else
        let lines := linesOf bytes
        (lines.take (lines.length - e.count)).flatten
  else if e.inBytes && (operand = "/dev/zero" || (isInput && m.stream? 0 = some .zeros)) then
    return .ok (List.replicate e.count 0)
  else if isInput && m.source?.isSome then
    if e.inBytes then
      match m.takeBytes? e.count with
      | some (bytes, m) =>
        set m
        return .ok bytes
      | none => return .ok []
    else return .ok (← takeLines e.count)
  else
    return (← contents operand).map fun bytes =>
      if e.inBytes then bytes.take e.count else ((linesOf bytes).take e.count).flatten

/-- Writes the beginning of files. -/
def head : Tool := fun zero args => do
  let (e, letters, operands) ← extentOf zero '-' args
  setStatus 0
  writeParts zero letters (headPart e) (1 < operands.length) true (orInput operands)

/-- The end of some bytes. -/
def lastPart (e : Extent) (bytes : List UInt8) : List UInt8 :=
  if e.inBytes then
    bytes.drop (if e.isSigned then e.count - 1 else bytes.length - e.count)
  else
    let lines := linesOf bytes
    (lines.drop (if e.isSigned then e.count - 1 else lines.length - e.count)).flatten

/-- Writes the end of files. -/
def tail : Tool := fun zero args => do
  let (e, letters, operands) ← extentOf zero '+' args
  setStatus 0
  let part (operand : String) : Action (Except String (List UInt8)) := do
    return (← contents operand).map (lastPart e)
  writeParts zero letters part (1 < operands.length) true (orInput operands)
  if Options.has letters 'f' then throw .endless

/-- Writes the input to the output and to files. -/
def tee : Tool := fun zero args => do
  let (letters, operands) ← options zero 1 "ai" [("append", 'a')] args
  setStatus 0
  let bytes ← gather zero ["-"]
  put bytes
  operands.forM fun operand => do
    let m ← get
    let name := m.tree.realName (m.path operand)
    match m.find operand, m.tree.entry? name.dropLast with
    | .found _ .directory, _ => mishap zero (shown operand ++ ": Is a directory")
    | .found name (.file old executable), _ =>
      let kept := if Options.has letters 'a' then old else []
      modify (·.edit (.put name (.file (kept ++ bytes) executable)))
    | _, some .directory => modify (·.edit (.put name (.file bytes false)))
    | arrival, _ => mishap zero (shown operand ++ ": " ++ words arrival)

/-! ## Counting -/

/-- The numbers of lines, of words and of bytes. -/
def countsOf (bytes : List UInt8) : Nat × Nat × Nat :=
  let (lines, words, count, _) := bytes.foldl (fun (lines, words, count, inside) b =>
    let isSpace := b = 32 || (9 ≤ b && b ≤ 13)
    (if b = 10 then lines + 1 else lines, if isSpace || inside then words else words + 1,
      count + 1, !isSpace)) ((0 : Nat), (0 : Nat), (0 : Nat), false)
  (lines, words, count)

/-- Counts lines, words and bytes. -/
def wc : Tool := fun zero args => do
  let (letters, operands) ← options zero 1 "lwcm"
    [("lines", 'l'), ("words", 'w'), ("bytes", 'c'), ("chars", 'm')] args
  setStatus 0
  let has (cs : String) : Bool := letters.isEmpty || cs.toList.any (Options.has letters)
  let chosen (n : Nat × Nat × Nat) : List Nat :=
    (if has "l" then [n.1] else []) ++ (if has "w" then [n.2.1] else [])
      ++ (if has "cm" then [n.2.2] else [])
  let files := orInput operands
  let m ← get
  let size? (file : String) : Option Nat :=
    if file = "-" then m.source?.bind fun (_, s) => s.size?
    else match m.find file with
      | .found _ (.file bytes _) => some bytes.length
      | .found .. => none
      | _ => some 0
  let isSingle := files.length = 1 && (chosen (0, 0, 0)).length = 1
  let sizes := files.map size?
  let width := if isSingle then 1
    else max (numeral (total (sizes.filterMap id))).length (if sizes.all (·.isSome) then 1 else 7)
  let line (n : Nat × Nat × Nat) (name : String) : String :=
    String.intercalate " " ((chosen n).map (padded width))
      ++ (if name.isEmpty then "" else " " ++ name) ++ "\n"
  let all ← files.foldlM (fun ((l, w, c) : Nat × Nat × Nat) file => do
    let show_ (n : Nat × Nat × Nat) : Action Unit := say (line n (if operands.isEmpty then "" else file))
    match ← contents file with
    | .ok bytes =>
      let n := countsOf bytes
      show_ n
      return (l + n.1, w + n.2.1, c + n.2.2)
    | .error why =>
      mishap zero (shown file ++ ": " ++ why)
      if why = "Is a directory" then show_ (0, 0, 0)
      return (l, w, c)) (0, 0, 0)
  if 1 < files.length then say (line all "total")

/-- One step of the checksum: a bit is shifted in. -/
def checksumBit (crc : Nat) (bit : Nat) : Nat :=
  let shifted := (crc * 2 + bit) % twoTo 32
  if crc / twoTo 31 = 1 then Nat.xor shifted 0x04C11DB7 else shifted

/-- A byte is taken into the checksum, its highest bit first. -/
def checksumByte (crc : Nat) (b : Nat) : Nat :=
  [7, 6, 5, 4, 3, 2, 1, 0].foldl (fun crc i => checksumBit crc (b / twoTo i % 2)) crc

/-- The bytes of a length, the lowest first. -/
def lengthBytes : Nat → Nat → List Nat
  | 0, _ => []
  | fuel + 1, n => if n = 0 then [] else n % 256 :: lengthBytes fuel (n / 256)

/-- The cyclic checksum of some bytes and of their length. -/
def checksum (bytes : List UInt8) : Nat :=
  let crc := bytes.foldl (fun crc b => checksumByte crc b.toNat) 0
  let crc := (lengthBytes 8 bytes.length).foldl checksumByte crc
  let crc := [0, 0, 0, 0].foldl checksumByte crc
  twoTo 32 - 1 - crc

/-- Writes the checksums and the lengths of files. -/
def cksum : Tool := fun zero args => do
  let (_, operands) ← options zero 1 "" [] args
  setStatus 0
  (orInput operands).forM fun operand => do
    match ← contents operand with
    | .ok bytes =>
      let name := if operands.isEmpty then "" else " " ++ operand
      say (numeral (checksum bytes) ++ " " ++ numeral bytes.length ++ name ++ "\n")
    | .error why => mishap zero (shown operand ++ ": " ++ why)

/-! ## Replacing and choosing -/

/-- The classes of characters that `tr` knows by name. -/
def trClasses : List (String × String) :=
  [("[:lower:]", "a-z"), ("[:upper:]", "A-Z"), ("[:digit:]", "0-9"), ("[:alpha:]", "A-Za-z"),
   ("[:alnum:]", "0-9A-Za-z"), ("[:space:]", "\\t\\n\\v\\f\\r "), ("[:blank:]", "\\t "),
   ("[:punct:]", "!-/:-@[-\x60\x7b-~"), ("[:xdigit:]", "0-9A-Fa-f"), ("[:cntrl:]", "\\000-\\037\\177"),
   ("[:graph:]", "!-~"), ("[:print:]", " -~")]

/-- A set of `tr` with its classes written out. -/
def withoutClasses : Nat → List Char → List Char
  | 0, cs => cs
  | fuel + 1, cs =>
    match cs with
    | [] => []
    | c :: rest =>
      match trClasses.find? fun (name, _) => name.toList.isPrefixOf cs with
      | some (name, letters) => letters.toList ++ withoutClasses fuel (cs.drop name.length)
      | none => c :: withoutClasses fuel rest

/-- The characters of a set of `tr`, each with whether a backslash stands before it. -/
def trCharacters : Nat → List Char → List (Bool × Char)
  | 0, _ => []
  | fuel + 1, cs =>
    match cs with
    | [] => []
    | '\\' :: 'e' :: rest => (true, 'e') :: trCharacters fuel rest
    | '\\' :: rest =>
      let (c, after) := Format.escape rest
      if c = '\\' && after.length = rest.length then
        match rest with
        | d :: more => (true, d) :: trCharacters fuel more
        | [] => [(true, '\\')]
      else (true, c) :: trCharacters fuel after
    | c :: rest => (false, c) :: trCharacters fuel rest

/-- The bytes that characters of a set stand for, with ranges between dashes; a range that
goes backwards is the answer instead. -/
def trRanges : Nat → List (Bool × Char) → Except String (List UInt8)
  | 0, _ => .ok []
  | fuel + 1, cs =>
    match cs with
    | [] => .ok []
    | (_, a) :: (false, '-') :: (_, b) :: rest =>
      if b.toNat < a.toNat then .error (String.ofList [a, '-', b])
      else do
        let more ← trRanges fuel rest
        return ((List.range (b.toNat + 1 - a.toNat)).map fun i => (a.toNat + i).toUInt8) ++ more
    | (_, c) :: rest => do return c.toNat.toUInt8 :: (← trRanges fuel rest)

/-- The bytes of a set of `tr`. -/
def trSet (zero s : String) : Action (List UInt8) := do
  let cs := trCharacters (s.length * 8 + 64) (withoutClasses (s.length + 1) s.toList)
  match trRanges (cs.length + 1) cs with
  | .ok bytes => return bytes
  | .error range =>
    giveUp zero ("range-endpoints of '" ++ range ++ "' are in reverse collating sequence order") 1

/-- Leaves out repetitions of bytes of a set. -/
def squeezeBytes (set : List UInt8) : List UInt8 → List UInt8
  | a :: b :: rest =>
    if a = b && set.contains a then squeezeBytes set (b :: rest)
    else a :: squeezeBytes set (b :: rest)
  | rest => rest

/-- Replaces, removes or squeezes bytes of the input. -/
def tr : Tool := fun zero args => do
  let (letters, operands) ← options zero 1 "cCdst"
    [("complement", 'c'), ("delete", 'd'), ("squeeze-repeats", 's'), ("truncate-set1", 't')] args
  let has (c : Char) : Bool := Options.has letters c
  setStatus 0
  let sets ← operands.mapM (trSet zero)
  let isComplement := has 'c' || has 'C'
  let first := sets.headD []
  let isIn (b : UInt8) : Bool := first.contains b != isComplement
  match sets with
  | [] => misuse zero "missing operand" 1
  | [_] =>
    if !has 'd' && !has 's' then
      warn zero ("missing operand after '" ++ operands.headD "" ++ "'")
      complain "Two strings must be given when translating."
      hint zero
      setStatus 1
      throw .exit
    let bytes ← gather zero ["-"]
    if has 'd' then put (bytes.filter (!isIn ·))
    else put (squeezeBytes ((List.range 256).map (·.toUInt8) |>.filter isIn) bytes)
  | [_, second] =>
    let bytes ← gather zero ["-"]
    if has 'd' then put (squeezeBytes second (bytes.filter (!isIn ·)))
    else
      let from_ := if has 't' then first.take second.length else first
      let replace (b : UInt8) : UInt8 :=
        if isComplement then (if isIn b then second.getLast?.getD b else b)
        else match from_.idxOf? b with
          | some i => (second[i]?).getD (second.getLast?.getD b)
          | none => b
      let replaced := bytes.map replace
      put (if has 's' then squeezeBytes second replaced else replaced)
  | _ => misuse zero ("extra operand '" ++ (operands[2]?).getD "" ++ "'") 1

/-- The order of lines, byte by byte. -/
def lineLe : List UInt8 → List UInt8 → Bool
  | [], _ => true
  | _ :: _, [] => false
  | a :: as, b :: bs => a < b || (a = b && lineLe as bs)

/-- The number that a line begins with, in thousandths. -/
def lineNumber (line : List UInt8) : Int :=
  let cs := ((Text.holding line).toList).dropWhile isSpace
  let (negative, cs) := match cs with
    | '-' :: cs => (true, cs)
    | _ => (false, cs)
  let whole := cs.takeWhile isDigit
  let fraction := match cs.drop whole.length with
    | '.' :: more => (more.takeWhile isDigit).take 3
    | _ => []
  let n : Int := readDigits (whole ++ fraction ++ List.replicate (3 - fraction.length) '0')
  if negative then -n else n

/-- Drops each line that is the same as the one before it. -/
def dropRepeats (same : List UInt8 → List UInt8 → Bool) :
    List (List UInt8) → List (List UInt8)
  | a :: b :: rest =>
    if same a b then dropRepeats same (a :: rest) else a :: dropRepeats same (b :: rest)
  | rest => rest
termination_by lines => lines.length

/-- Sorts lines. -/
def sort : Tool := fun zero args => do
  let (letters, operands) ← options zero 2 "rnubdfghik:Mo:st:Vz"
    [("reverse", 'r'), ("numeric-sort", 'n'), ("unique", 'u')] args
  let has (c : Char) : Bool := Options.has letters c
  setStatus 0
  let bytes ← (orInput operands).foldlM (fun done operand => do
    match ← contents operand with
    | .ok bytes => return done ++ plainLinesOf bytes
    | .error why =>
      giveUp zero ((if why = "Is a directory" then "read failed: " else "cannot read: ")
        ++ shown operand ++ ": " ++ why) 2) []
  let before (a b : List UInt8) : Bool :=
    if has 'n' && lineNumber a ≠ lineNumber b then lineNumber a < lineNumber b else lineLe a b
  let same (a b : List UInt8) : Bool :=
    if has 'n' then lineNumber a = lineNumber b else a = b
  let sorted := bytes.mergeSort fun a b => if has 'r' then before b a else before a b
  let sorted := if has 'u' then dropRepeats same sorted else sorted
  put (sorted.flatMap terminated)

/-- Lines in a row that are the same, with how many there are. -/
def runsOf : List (List UInt8) → List (Nat × List UInt8)
  | [] => []
  | line :: rest =>
    match runsOf rest with
    | (n, other) :: more => if other = line then (n + 1, line) :: more else (1, line) :: (n, other) :: more
    | [] => [(1, line)]

/-- Leaves out lines that are the same as the one before. -/
def uniq : Tool := fun zero args => do
  let (letters, operands) ← options zero 1 "cdui" [("count", 'c'), ("repeated", 'd')] args
  let has (c : Char) : Bool := Options.has letters c
  setStatus 0
  let runs := runsOf (plainLinesOf (← gather zero ((orInput operands).take 1)))
  let chosen := runs.filter fun (n, _) => (!has 'd' || 1 < n) && (!has 'u' || n = 1)
  put (chosen.flatMap fun (n, line) =>
    (if has 'c' then Text.held (padded 7 n ++ " ") else []) ++ terminated line)

/-- The ranges of places that `cut` is given. -/
def rangesOf (s : String) : List (Nat × Option Nat) :=
  (s.splitOn ",").map fun part =>
    match (part.splitOn "-").map fun n => (n, readDigits n.toList) with
    | [(_, n)] => (n, some n)
    | [(a, first), (b, last)] => (if a.isEmpty then 1 else first, if b.isEmpty then none else some last)
    | _ => (1, none)

/-- The elements at the places of some ranges. -/
def choose {α : Type} (ranges : List (Nat × Option Nat)) (xs : List α) : List α :=
  (xs.zip (List.range xs.length)).filterMap fun (x, i) =>
    if ranges.any fun (first, last?) => first ≤ i + 1 && last?.all (i + 1 ≤ ·) then some x else none

/-- Writes chosen parts of each line. -/
def cut : Tool := fun zero args => do
  let (letters, operands) ← options zero 1 "b:c:d:f:s"
    [("delimiter", 'd'), ("fields", 'f'), ("characters", 'c'), ("bytes", 'b'),
     ("only-delimited", 's')] args
  setStatus 0
  let delimiter := ((Options.value? letters 'd').getD "\t").toList.headD '\t'
  let places? := (Options.value? letters 'c').or (Options.value? letters 'b')
  let part (line : List UInt8) : Option (List UInt8) :=
    match places?, Options.value? letters 'f' with
    | some spec, _ => some (choose (rangesOf spec) line)
    | none, some spec =>
      let fields := Text.splitAtChar delimiter (Text.holding line).toList
      if fields.length ≤ 1 then (if Options.has letters 's' then none else some line)
      else
        let chosen := (choose (rangesOf spec) fields).map String.ofList
        some (Text.held (String.intercalate (String.ofList [delimiter]) chosen))
    | none, none => some line
  if places?.isNone && (Options.value? letters 'f').isNone then
    misuse zero "you must specify a list of bytes, characters, or fields" 1
  else
    let lines := plainLinesOf (← gather zero (orInput operands))
    put ((lines.filterMap part).flatMap terminated)

end TypeCoverage.Shell.Tool
