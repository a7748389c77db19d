import TypeCoverage.Text.Lines
import TypeCoverage.Json.Token

/-!
# Scanning settings files

The parts of a TOML document that hold no other values: white space, comments, keys and
the four kinds of strings.  A scanner takes the characters that are left and answers what
it has read with the characters after it; it refuses a document by its cause.
-/

namespace TypeCoverage.Toml

/-- Why a document is refused. -/
inductive Refusal where
  | malformed
  /-- A decimal integer has too many digits. -/
  | integerTooLong
  /-- Values are nested too deep to be read. -/
  | tooDeep
  deriving DecidableEq, Repr

/-- The answer of a scanner. -/
abbrev Scan (α : Type) : Type := Except Refusal (α × List Char)

/-- The answer for a document that is not well-formed. -/
def malformed {α : Type} : Except Refusal α := .error .malformed

/-- Space and tab. -/
def isSpace (c : Char) : Bool := c = ' ' || c = '\t'

/-- Space, tab and line feed. -/
def isSpaceOrBreak (c : Char) : Bool := isSpace c || c = '\n'

/-- A control character other than the tab. -/
def isControl (c : Char) : Bool := (c.toNat < 0x20 && c ≠ '\t') || c.toNat = 0x7F

/-- A control character other than the tab and the line feed. -/
def isControlInLines (c : Char) : Bool := isControl c && c ≠ '\n'

/-- An ASCII letter, digit, hyphen or underscore. -/
def isBare (c : Char) : Bool := c.isAlphanum || c = '-' || c = '_'

/-- Passes over spaces and tabs. -/
def skipSpace (cs : List Char) : List Char := cs.dropWhile isSpace

/-- Passes over a comment up to the end of its line. -/
def skipComment : List Char → Except Refusal (List Char)
  | '#' :: cs =>
    if (cs.takeWhile (· ≠ '\n')).any isControl then malformed
    else .ok (cs.dropWhile (· ≠ '\n'))
  | cs => .ok cs

/-- Passes over white space, line breaks and comments, `fuel` comments at most. -/
def skipLines : Nat → List Char → Except Refusal (List Char)
  | 0, cs => .ok cs
  | fuel + 1, cs =>
    match cs.dropWhile isSpaceOrBreak with
    | '#' :: rest =>
      match skipComment ('#' :: rest) with
      | .ok rest => skipLines fuel rest
      | .error e => .error e
    | rest => .ok rest

/-- Passes over everything that may stand around the items of an array. -/
def skipBetween (cs : List Char) : Except Refusal (List Char) :=
  skipLines (cs.length + 1) cs

/-- The number written by hexadecimal digits. -/
def hexNumber? (cs : List Char) : Option Nat :=
  cs.foldl (fun n? c => match n?, Json.hexValue? c with
    | some n, some d => some (n * 16 + d)
    | _, _ => none) (some 0)

/-- The character whose code point has `width` hexadecimal digits. -/
def hexChar (width : Nat) (cs : List Char) : Scan Char :=
  let digits := cs.take width
  if digits.length < width then malformed
  else match hexNumber? digits with
    | none => malformed
    | some n =>
      if n < 0xD800 || (0xDFFF < n && n ≤ 0x10FFFF) then .ok (Char.ofNat n, cs.drop width)
      else malformed

/-- The character of an escape, after its backslash. -/
def escapedChar : List Char → Scan Char
  | 'b' :: cs => .ok ('\x08', cs)
  | 't' :: cs => .ok ('\t', cs)
  | 'n' :: cs => .ok ('\n', cs)
  | 'f' :: cs => .ok ('\x0c', cs)
  | 'r' :: cs => .ok ('\r', cs)
  | '"' :: cs => .ok ('"', cs)
  | '\\' :: cs => .ok ('\\', cs)
  | 'u' :: cs => hexChar 4 cs
  | 'U' :: cs => hexChar 8 cs
  | _ => malformed

/-- A string in quotation marks, after the first one.  `done` holds its characters so far,
the last one first. -/
def basicString : Nat → List Char → List Char → Scan String
  | 0, _, _ => malformed
  | fuel + 1, done, cs =>
    match cs with
    | [] => malformed
    | '"' :: rest => .ok (String.ofList done.reverse, rest)
    | '\\' :: rest =>
      match escapedChar rest with
      | .ok (c, rest) => basicString fuel (c :: done) rest
      | .error e => .error e
    | c :: rest => if isControl c then malformed else basicString fuel (c :: done) rest

/-- A string between apostrophes, after the first one. -/
def literalString (cs : List Char) : Scan String :=
  let body := cs.takeWhile (· ≠ '\'')
  match cs.dropWhile (· ≠ '\'') with
  | [] => malformed
  | _ :: rest => if body.any isControl then malformed else .ok (String.ofList body, rest)

/-- Up to two more delimiters belong to a string of several lines that they end. -/
def trailing (delimiter : Char) (done : List Char) (cs : List Char) : Scan String :=
  match cs with
  | c :: d :: rest =>
    if c = delimiter && d = delimiter then
      .ok (String.ofList (d :: c :: done).reverse, rest)
    else if c = delimiter then .ok (String.ofList (c :: done).reverse, d :: rest)
    else .ok (String.ofList done.reverse, cs)
  | [c] =>
    if c = delimiter then .ok (String.ofList (c :: done).reverse, [])
    else .ok (String.ofList done.reverse, cs)
  | [] => .ok (String.ofList done.reverse, cs)

/-- What follows a backslash at the end of a line: the line break and all white space
after it are left out. -/
def skipLineEnd (cs : List Char) : Except Refusal (List Char) :=
  match skipSpace cs with
  | '\n' :: rest => .ok (rest.dropWhile isSpaceOrBreak)
  | [] => .ok []
  | _ => malformed

/-- A string between three quotation marks, after the first three. -/
def basicLines : Nat → List Char → List Char → Scan String
  | 0, _, _ => malformed
  | fuel + 1, done, cs =>
    match cs with
    | [] => malformed
    | '"' :: '"' :: '"' :: rest => trailing '"' done rest
    | '\\' :: c :: rest =>
      if isSpaceOrBreak c then
        match skipLineEnd (c :: rest) with
        | .ok rest => basicLines fuel done rest
        | .error e => .error e
      else match escapedChar (c :: rest) with
        | .ok (c, rest) => basicLines fuel (c :: done) rest
        | .error e => .error e
    | '\\' :: [] => malformed
    | c :: rest => if isControlInLines c then malformed else basicLines fuel (c :: done) rest

/-- A string between three apostrophes, after the first three. -/
def literalLines (done : List Char) : List Char → Scan String
  | [] => malformed
  | '\'' :: '\'' :: '\'' :: rest => trailing '\'' done rest
  | c :: rest => if isControlInLines c then malformed else literalLines (c :: done) rest

/-- A line break right after the opening of a string of several lines is left out. -/
def skipFirstBreak : List Char → List Char
  | '\n' :: cs => cs
  | cs => cs

/-- A string of one line in quotation marks, after the first one. -/
def readBasic (cs : List Char) : Scan String := basicString (cs.length + 1) [] cs

/-- A string that begins with a quotation mark or an apostrophe. -/
def readString : List Char → Scan String
  | '"' :: '"' :: '"' :: cs => basicLines (cs.length + 1) [] (skipFirstBreak cs)
  | '"' :: cs => readBasic cs
  | '\'' :: '\'' :: '\'' :: cs => literalLines [] (skipFirstBreak cs)
  | '\'' :: cs => literalString cs
  | _ => malformed

/-- One part of a key. -/
def keyPart : List Char → Scan String
  | [] => malformed
  | c :: cs =>
    if isBare c then
      .ok (String.ofList (c :: cs.takeWhile isBare), cs.dropWhile isBare)
    else if c = '\'' then literalString cs
    else if c = '"' then readBasic cs
    else malformed

/-- The parts of a key between dots, `fuel` at most, and the white space after them. -/
def keyParts : Nat → List Char → Scan (List String)
  | 0, _ => malformed
  | fuel + 1, cs =>
    match keyPart cs with
    | .error e => .error e
    | .ok (part, rest) =>
      match skipSpace rest with
      | '.' :: rest =>
        (keyParts fuel (skipSpace rest)).map fun (parts, rest) => (part :: parts, rest)
      | rest => .ok ([part], rest)

/-- A key. -/
def readKey (cs : List Char) : Scan (List String) := keyParts (cs.length + 1) cs

end TypeCoverage.Toml
