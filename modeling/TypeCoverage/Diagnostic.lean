import TypeCoverage.Report.Basic
import TypeCoverage.Severity

/-!
# Diagnostics

Each region of a report that is not covered gives one diagnostic, in the order of the
report, if the regions are to be shown at all.  It names the region's own source, or else
the file that the report is about.
-/

namespace TypeCoverage

/-- A message about a region of a file. -/
structure Diagnostic where
  file : String
  range : Region
  severity : Severity
  message : String
  tool : String
  deriving DecidableEq, Repr

/-- The message about an uncovered region. -/
def uncoveredMessage : String := "Uncovered code"

/-- The name under which the diagnostics are reported. -/
def diagnosticTool : String := "flow-coverage"

/-- The file that a region lies in; an empty source counts as none. -/
def Region.fileIn (region : Region) (file : String) : String :=
  match region.source with
  | some source => if source.isEmpty then file else source
  | none => file

/-- The diagnostic for an uncovered region. -/
def Region.diagnostic (region : Region) (file : String) : Diagnostic :=
  { file := region.fileIn file
    range := region
    severity := .info
    message := uncoveredMessage
    tool := diagnosticTool }

/-- The diagnostics of a report about a file. -/
def Report.diagnostics (r : Report) (file : String) (showUncovered : Bool) : List Diagnostic :=
  if showUncovered then r.regions.map (·.diagnostic file) else []

theorem Report.length_diagnostics (r : Report) (file : String) :
  (r.diagnostics file true).length = r.regions.length
  := by
  simp [Report.diagnostics]

end TypeCoverage
