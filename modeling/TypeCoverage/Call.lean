import TypeCoverage.Failure

/-!
# Calls of the checker

A `Call` is one use of the checker: the program with its arguments and how it is run.  It
is answered by a `Reply`.
-/

namespace TypeCoverage

/-- The seconds that a call may take if nothing else is said. -/
def defaultTimeout : Binary64 := .ofInt 60

/-- One use of the checker.  Of two calls with one key, the later replaces the earlier. -/
structure Call where
  executable : String
  args : List String
  cwd : Option Path := none
  timeout : Option Binary64 := some defaultTimeout
  ignoreExitCode : Bool := false
  detached : Bool := false
  uniqueKey : Option String := none
  deriving DecidableEq, Repr

/-- How a call was answered: by a text, by nothing because a later call replaced it, or by
a failure. -/
inductive Reply where
  | output (text : String)
  | replaced
  | failed (why : Failure)
  deriving DecidableEq, Repr

/-- The reply of a scripted checker that has nothing left to say. -/
def Reply.exhausted : Reply := .failed (.runtime "no more responses")

end TypeCoverage
