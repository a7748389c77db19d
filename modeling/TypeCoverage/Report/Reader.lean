import TypeCoverage.Finding
import TypeCoverage.Json.Reader
import TypeCoverage.Report.Basic
import TypeCoverage.Text.Blank

/-!
# Reading a coverage report

A report is a JSON object with the counts under `expressions` and the regions under
`uncoveredLocations` or `uncovered_locations`; if it has neither, the regions may stand
under `uncovered_locations` beside the counts.  A column is `col` or `column`.  Unknown
keys are passed over.  `Report.parse` answers the report, or why there is none.
-/

namespace TypeCoverage

open Json (Value)

namespace Report

/-- An integer, not written with a fraction or an exponent. -/
def readInteger : Value → Checked Int
  | .atom (.integer n) => .ok n
  | _ => .fail .notInteger

/-- An integer that is not negative. -/
def readCount : Value → Checked Nat
  | .atom (.integer n) => if n < 0 then .fail .negative else .ok n.toNat
  | _ => .fail .notInteger

/-- A text or `null`. -/
def readSource : Value → Checked (Option String)
  | .atom .null => .ok none
  | .atom (.text s) => .ok (some s)
  | _ => .fail .notText

/-- A member that has to be there. -/
def required {α : Type} (key : String) (read : Value → Checked α)
    (members : List (String × Value)) : Checked α :=
  .below (.key key) (match Json.lookup key members with
    | some v => read v
    | none => .fail .missing)

/-- The members of an object. -/
def readObject {α : Type} (read : List (String × Value) → Checked α) : Value → Checked α
  | .object members => read members
  | _ => .fail .notObject

/-- The key under which an object has its column. -/
def columnKey (members : List (String × Value)) : String :=
  if (Json.lookup "col" members).isNone && (Json.lookup "column" members).isSome then "column"
  else "col"

/-- A place in a file. -/
def readPosition : Value → Checked Position :=
  readObject fun members =>
    (Checked.both (required "line" readInteger members)
      (required (columnKey members) readInteger members)).map fun (line, column) =>
        ⟨line, column⟩

/-- A region; its source may be left out. -/
def readRegion : Value → Checked Region :=
  readObject fun members =>
    let source := match Json.lookup "source" members with
      | some v => .below (.key "source") (readSource v)
      | none => .ok none
    (Checked.both (required "start" readPosition members)
      (Checked.both (required "end" readPosition members) source)).map
        fun (start, stop, source) => ⟨start, stop, source⟩

/-- An array of regions. -/
def readRegions : Value → Checked (List Region)
  | .array items =>
    .all (items.mapIdx fun i v => .below (.index i) (readRegion v))
  | _ => .fail .notArray

/-- The counts of covered and of uncovered expressions. -/
def readCounts : Value → Checked (Nat × Nat) :=
  readObject fun members =>
    Checked.both (required "covered_count" readCount members)
      (required "uncovered_count" readCount members)

/-- The value that holds the regions, with the key that names it in a finding. -/
def locations (members : List (String × Value)) : String × Option Value :=
  match Json.lookup "uncoveredLocations" members with
  | some v => ("uncoveredLocations", some v)
  | none =>
    match Json.lookup "uncovered_locations" members with
    | some v => ("uncovered_locations", some v)
    | none =>
      ("uncoveredLocations",
        (Json.lookup "expressions" members).bind (Value.field? "uncovered_locations"))

/-- The report that a JSON value holds. -/
def ofJson : Value → Checked Report :=
  readObject fun members =>
    let (key, value?) := locations members
    let regions := Checked.below (.key key) (match value? with
      | some v => readRegions v
      | none => .fail .missing)
    (Checked.both (required "expressions" readCounts members) regions).map
      fun ((covered, uncovered), regions) => ⟨covered, uncovered, regions⟩

/-- Why a text is no report. -/
inductive Refusal where
  /-- There is nothing in the text. -/
  | empty
  /-- The text is not JSON, or not that of a report. -/
  | invalid (findings : List Finding)
  deriving DecidableEq, Repr

/-- The words for a refusal. -/
def Refusal.message : Refusal → String
  | .empty => "checker produced no coverage output"
  | .invalid findings => "invalid coverage report: " ++ findingCount findings "CoverageReport"

/-- The findings behind a refusal. -/
def Refusal.findings : Refusal → List Finding
  | .empty => []
  | .invalid findings => findings

/-- The report that a text writes. -/
def parse (payload : String) : Except Refusal Report :=
  if Text.isAllBlank payload then .error .empty
  else match Json.parse? payload with
    | none => .error (.invalid [⟨[], .malformed⟩])
    | some v => (ofJson v).mapError .invalid

end Report

end TypeCoverage
