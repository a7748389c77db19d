import TypeCoverage.Text.Blank

/-!
# Notices of a busy checker

A checker that is starting or rechecking says so in its message.  Both notices are
transient; only the first one tells that a server is being started.
-/

namespace TypeCoverage.Busy

/-- The words that tell of a server that is being started. -/
def startingWords : String := "flow server"

/-- The words that tell of a recheck. -/
def recheckingWords : String := "flow is"

/-- A message of a checker whose server is being started. -/
def isServerStarting (message : String) : Bool :=
  Text.occursIn startingWords.toList message.toList

/-- A message of a checker that is starting or rechecking. -/
def isTransient (message : String) : Bool :=
  isServerStarting message || Text.occursIn recheckingWords.toList message.toList

theorem isTransient_of_isServerStarting {message : String}
  (h : isServerStarting message = true) :
  isTransient message = true
  := by
  simp [isTransient, h]

end TypeCoverage.Busy
