import TypeCoverage.Cache
import TypeCoverage.Failure

/-!
# The tile of a status bar

A `Tile` has a text, a tooltip and may be hidden; it changes by the calls made on it.
`Tile.reportCalls` are the calls that show a report, `Tile.clearCalls` those that empty
and hide the tile, and `Tile.documentCalls` show the cached report of a document, if it
has one.  A report whose counts are too long for a tooltip fails after its text is set, and
one without a percentage before anything is set.
-/

namespace TypeCoverage

/-- What a tile shows. -/
structure Tile where
  text : String := ""
  tooltip : Option String := none
  visible : Bool := false
  deriving DecidableEq, Repr

/-- A call on a tile. -/
inductive TileCall where
  | setText (text : String)
  | setTooltip (tooltip : Option String)
  | unhide
  | hide
  deriving DecidableEq, Repr

namespace Tile

/-- The tile after a call. -/
def apply (t : Tile) : TileCall → Tile
  | .setText text => { t with text := text }
  | .setTooltip tooltip => { t with tooltip := tooltip }
  | .unhide => { t with visible := true }
  | .hide => { t with visible := false }

/-- The tile after some calls. -/
def applyAll (t : Tile) (calls : List TileCall) : Tile := calls.foldl apply t

/-- The second line of the tooltip. -/
def hint : String := "Click to toggle uncovered code"

/-- Calls on a tile, and whether the one who makes them fails after them. -/
structure Painting where
  calls : List TileCall
  result : Except Failure Unit

/-- The calls that show a report. -/
def reportCalls (r : Report) : Painting :=
  match r.summary? with
  | none => ⟨[], .error .overflow⟩
  | some s =>
    match s.tooltip? with
    | none => ⟨[.setText s.text], .error (.badValue none)⟩
    | some tooltip =>
      ⟨[.setText s.text, .setTooltip (some (tooltip ++ "\n" ++ hint)), .unhide], .ok ()⟩

/-- The calls that hide and empty the tile. -/
def clearCalls : List TileCall := [.hide, .setText "", .setTooltip none]

/-- The calls that show the cached report of a document. -/
def documentCalls (cache : Cache) (document : Option String) : Painting :=
  match cache.get document with
  | none => ⟨clearCalls, .ok ()⟩
  | some r => reportCalls r

/-- The calls that release the tile. -/
def releaseCalls : List TileCall := [.setTooltip none]

theorem applyAll_clearCalls (t : Tile) :
  t.applyAll clearCalls = {}
  := rfl

end Tile

end TypeCoverage
