import TypeCoverage.Text.Lines
import TypeCoverage.Text.Width
import TypeCoverage.Tile

/-!
# Lines for a terminal

A text is printed as it is, followed by a line break, except that controls which would
move the cursor are left out and a tab fills up to the next multiple of eight cells.
A message begins with the sign of its kind, if signs are wanted.
-/

namespace TypeCoverage.Terminal

/-- The controls that are left out: bell, backspace, vertical tab, form feed and carriage
return. -/
def isMovement (c : Char) : Bool :=
  c = '\x07' || c = '\x08' || c = '\x0b' || c = '\x0c' || c = '\r'

/-- A text without the controls that would move the cursor. -/
def plain (s : String) : String := String.ofList (s.toList.filter (!isMovement ·))

/-- The cells from one tab stop to the next. -/
def tabWidth : Nat := 8

/-- The first tab stop at or after a column. -/
def tabStop (column : Nat) : Nat := (column + tabWidth - 1) / tabWidth * tabWidth

/-- Writes tabs as spaces, one at least, up to the next tab stop.  The text begins at a
column with `part`, its last character first, in which there is no tab. -/
def fillTabs (column : Nat) (part : List Char) : List Char → List Char
  | [] => part.reverse
  | c :: cs =>
    if c = '\t' then
      let reached := column + Text.cells (' ' :: part).reverse
      let stop := tabStop reached
      (' ' :: part).reverse ++ List.replicate (stop - reached) ' ' ++ fillTabs stop [] cs
    else if c = '\n' then (c :: part).reverse ++ fillTabs 0 [] cs
    else fillTabs column (c :: part) cs

/-- A printed text. -/
def printed (s : String) : String :=
  String.ofList (fillTabs 0 [] (plain s).toList ++ ['\n'])

/-- The kinds of messages. -/
inductive Kind where
  | info
  | ok
  | warn
  | fail
  deriving DecidableEq, Repr

/-- The sign of a kind of message. -/
def Kind.sign : Kind → String
  | .info => "ℹ️"
  | .ok => "✅"
  | .warn => "⚠️"
  | .fail => "❌"

/-- A printed message. -/
def message (signs : Bool) (kind : Kind) (text : String) : String :=
  printed (if signs then kind.sign ++ " " ++ text else text)

end TypeCoverage.Terminal

namespace TypeCoverage.Tile

/-- A tile on one line: its text and the first line of its tooltip; empty if it is
hidden. -/
def line (t : Tile) : String :=
  if t.visible then
    Terminal.plain t.text ++ (match t.tooltip with
      | some tooltip =>
        if tooltip.isEmpty then "" else "  " ++ Terminal.plain (Text.firstLine tooltip)
      | none => "")
  else ""

/-- The printed line of a tile; nothing if it is hidden. -/
def printed (t : Tile) : String :=
  if t.visible then Terminal.printed t.line else ""

end TypeCoverage.Tile
