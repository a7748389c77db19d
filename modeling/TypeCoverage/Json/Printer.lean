import TypeCoverage.Decimal.Digits
import TypeCoverage.Json.Value
import TypeCoverage.Text.Quoted

/-!
# Writing JSON

A value is written in ASCII, with other characters as escapes of their UTF-16 code
units, either on one line or with each part on a line of its own, indented by two spaces
for each container around it.  An empty container is written without a line break.
-/

namespace TypeCoverage.Json

open Decimal Text

/-- The escape of a UTF-16 code unit. -/
def unitEscape (n : Nat) : List Char :=
  '\\' :: 'u' :: hexDigits 4 n

/-- One character as it stands inside quotes. -/
def escaped (c : Char) : List Char :=
  if c = '"' then ['\\', '"']
  else if c = '\\' then ['\\', '\\']
  else if c = '\n' then ['\\', 'n']
  else if c = '\r' then ['\\', 'r']
  else if c = '\t' then ['\\', 't']
  else if c = '\x08' then ['\\', 'b']
  else if c = '\x0c' then ['\\', 'f']
  else if 0x20 ≤ c.toNat && c.toNat < 0x7F then [c]
  else if c.toNat < 0x10000 then unitEscape c.toNat
  else
    let n := c.toNat - 0x10000
    unitEscape (0xD800 + n / 0x400) ++ unitEscape (0xDC00 + n % 0x400)

/-- A text between quotes. -/
def textLiteral (s : String) : List Char :=
  '"' :: s.toList.flatMap escaped ++ ['"']

/-- An atom; a number whose value was not kept is written as the undefined number. -/
def Atom.print : Atom → List Char
  | .null => "null".toList
  | .boolean true => "true".toList
  | .boolean false => "false".toList
  | .integer n => (signedNumeral n).toList
  | .fractional => "NaN".toList
  | .text s => textLiteral s

/-- Where the parts of a container stand. -/
inductive Layout where
  | oneLine
  | indented
  deriving DecidableEq, Repr

/-- A line break and the indentation of a part inside `level` containers. -/
def Layout.lineBreak (layout : Layout) (level : Nat) : List Char :=
  match layout with
  | .oneLine => []
  | .indented => '\n' :: List.replicate (2 * level) ' '

/-- What stands between two parts of a container. -/
def Layout.separator (layout : Layout) (level : Nat) : List Char :=
  match layout with
  | .oneLine => [',', ' ']
  | .indented => ',' :: layout.lineBreak level

mutual

/-- A value inside `level` containers. -/
def Value.print (layout : Layout) (level : Nat) : Value → List Char
  | .atom a => a.print
  | .array [] => ['[', ']']
  | .array (v :: vs) =>
    '[' :: layout.lineBreak (level + 1) ++ v.print layout (level + 1)
      ++ printItems layout (level + 1) vs ++ layout.lineBreak level ++ [']']
  | .object [] => ['\x7b', '\x7d']
  | .object ((k, v) :: ms) =>
    '\x7b' :: layout.lineBreak (level + 1) ++ textLiteral k ++ ':' :: ' '
      :: v.print layout (level + 1) ++ printMembers layout (level + 1) ms
      ++ layout.lineBreak level ++ ['\x7d']

/-- The items of an array after its first one. -/
def printItems (layout : Layout) (level : Nat) : List Value → List Char
  | [] => []
  | v :: vs => layout.separator level ++ v.print layout level ++ printItems layout level vs

/-- The members of an object after its first one. -/
def printMembers (layout : Layout) (level : Nat) : List (String × Value) → List Char
  | [] => []
  | (k, v) :: ms =>
    layout.separator level ++ textLiteral k ++ ':' :: ' ' :: v.print layout level
      ++ printMembers layout level ms

end

/-- The text of a value. -/
def Value.render (layout : Layout) (v : Value) : String :=
  String.ofList (v.print layout 0)

end TypeCoverage.Json
