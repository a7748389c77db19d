import TypeCoverage.Diagnostic
import TypeCoverage.Json.Printer

/-!
# Reports and diagnostics as documents

A report is written as a JSON object that can be read back as the same report.  A
diagnostic is written with its region and its reporting level.
-/

namespace TypeCoverage

open Json (Value)

/-- A place as a document. -/
def Position.toJson (p : Position) : Value :=
  .object [("line", .integer p.line), ("column", .integer p.column)]

/-- A region as a document. -/
def Region.toJson (r : Region) : Value :=
  .object [("start", r.start.toJson), ("end", r.stop.toJson), ("source", .ofText? r.source)]

/-- A report as a document. -/
def Report.toJson (r : Report) : Value :=
  .object
    [("expressions", .object
      [("covered_count", .integer r.covered), ("uncovered_count", .integer r.uncovered)]),
     ("uncoveredLocations", .array (r.regions.map Region.toJson))]

/-- A diagnostic as a document. -/
def Diagnostic.toJson (d : Diagnostic) : Value :=
  .object
    [("file", .text d.file), ("range", d.range.toJson), ("severity", .text d.severity.name),
     ("message", .text d.message), ("tool", .text d.tool), ("level", .text d.severity.level)]

end TypeCoverage
