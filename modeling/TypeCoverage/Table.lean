import TypeCoverage.Decimal.Digits
import TypeCoverage.Diagnostic

/-!
# The table of uncovered regions

The table has one row for each diagnostic, with the start and the end of its region set
to the right and the message to the left.  A column is as wide as its widest cell, with a
space on either side.  If that is too wide for the screen, the widest columns are made
narrower, and a cell that does not fit ends in an ellipsis.
-/

namespace TypeCoverage.Table

open Decimal

/-- The title above the table. -/
def title : String := "Uncovered regions"

/-- The heads of the columns. -/
def heads : List String := ["Start", "End", "Message"]

/-- A place as a cell. -/
def positionCell (p : Position) : String :=
  signedNumeral p.line ++ ":" ++ signedNumeral p.column

/-- The cells of a diagnostic. -/
def cells (d : Diagnostic) : List String :=
  [positionCell d.range.start, positionCell d.range.stop, d.message]

/-- The beginning of a cell that fits a width, with an ellipsis if something is left out. -/
def fit (width : Nat) (cell : String) : String :=
  if cell.length ≤ width then cell else String.ofList (cell.toList.take (width - 1)) ++ "…"

/-- Fills a cell up with spaces, in front of it or after it. -/
def pad (toRight : Bool) (width : Nat) (cell : String) : String :=
  let cell := fit width cell
  let space := String.ofList (List.replicate (width - cell.length) ' ')
  if toRight then space ++ cell else cell ++ space

/-- Whether each column is set to the right. -/
def alignment : List Bool := [true, true, false]

/-- The width that all columns may have together, with the spaces beside the cells. -/
def room : Nat := 76

/-- The spaces beside a cell. -/
def margin : Nat := 2

/-- Takes an excess off the columns that are widest, in equal shares of `most` at most;
`count` columns of them are left. -/
def share (widest most : Nat) : Nat → Nat → List Nat → List Nat
  | _, _, [] => []
  | excess, count, w :: ws =>
    if w = widest then
      let part := min most (roundQuotient .toEven excess count)
      (w - part) :: share widest most (excess - part) (count - 1) ws
    else w :: share widest most excess count ws

/-- Makes the widest columns narrower, down to the next widest ones, until all have room
or `rounds` rounds are over. -/
def narrow : Nat → List Nat → List Nat
  | 0, ws => ws
  | rounds + 1, ws =>
    let excess := total ws - room
    let widest := ws.foldl max 0
    let second := (ws.filter (· ≠ widest)).foldl max 0
    if excess = 0 then ws
    else narrow rounds (share widest (min excess (widest - second)) excess (ws.count widest) ws)

/-- The width of each column without the spaces beside it. -/
def widths (rows : List (List String)) : List Nat :=
  let full := rows.foldl (fun ws row => List.zipWith (fun w cell => max w cell.length) ws row)
    [0, 0, 0]
  (narrow (full.length + 1) (full.map fun w => min (w + margin) room)).map (· - margin)

/-- A row between upright lines. -/
def row (upright : String) (ws : List Nat) (cells : List String) : String :=
  let parts := List.zipWith (fun (toRight, w) cell => " " ++ pad toRight w cell ++ " ")
    (alignment.zip ws) cells
  upright ++ String.intercalate upright parts ++ upright ++ "\n"

/-- A line between rows, from its left end, its crossings and its right end. -/
def rule (left across crossing right : String) (ws : List Nat) : String :=
  let parts := ws.map fun w => String.join (List.replicate (w + 2) across)
  left ++ String.intercalate crossing parts ++ right ++ "\n"

/-- The printed table. -/
def printed (diagnostics : List Diagnostic) : String :=
  let rows := diagnostics.map cells
  let ws := widths (heads :: rows)
  title ++ "\n" ++ rule "┏" "━" "┳" "┓" ws ++ row "┃" ws heads ++ rule "┡" "━" "╇" "┩" ws
    ++ String.join (rows.map (row "│" ws)) ++ rule "└" "─" "┴" "┘" ws

end TypeCoverage.Table
