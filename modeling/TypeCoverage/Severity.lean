/-!
# Severities

A severity is one of three, and a reporting tool shows it as a level.  A severity that
is not known has the level of a warning.
-/

namespace TypeCoverage

/-- How serious a diagnostic is. -/
inductive Severity where
  | error
  | warning
  | info
  deriving DecidableEq, Repr

namespace Severity

/-- The name of a severity. -/
def name : Severity → String
  | .error => "error"
  | .warning => "warning"
  | .info => "info"

/-- The reporting level of a severity. -/
def level : Severity → String
  | .error => "error"
  | .warning => "warning"
  | .info => "note"

/-- The severity with a name. -/
def ofName? (s : String) : Option Severity :=
  [error, warning, info].find? (·.name == s)

theorem ofName?_name (s : Severity) :
  ofName? s.name = some s
  := by
  cases s <;> decide

/-- The reporting level for the name of a severity, known or not. -/
def levelOfName (s : String) : String :=
  match ofName? s with
  | some severity => severity.level
  | none => "warning"

theorem levelOfName_name (s : Severity) :
  levelOfName s.name = s.level
  := by
  simp [levelOfName, ofName?_name]

end Severity

end TypeCoverage
