import TypeCoverage.Child
import TypeCoverage.Spawn
import TypeCoverage.Text.Blank
import TypeCoverage.Text.Utf8

/-!
# Invocations

An invocation is a call whose program has been started.  Its end has an `Outcome`, and
the reply follows from it: a program that fails, or that says something only on its
standard error, is refused with all that it has written, and otherwise the standard
output is the reply.  An invocation that a later one has replaced answers nothing when
its program ends.
-/

namespace TypeCoverage

/-- How the wait for a started program has ended. -/
inductive Outcome where
  | exited (exit : Exit)
  | timedOut
  | cancelled
  deriving Repr

namespace Call

/-- The seconds that a time-out reports. -/
def reportedTimeout (c : Call) : Binary64 :=
  match c.timeout with
  | some (.finite negative mantissa exponent) =>
    if mantissa = 0 then .zero false else .finite negative mantissa exponent
  | some seconds => seconds
  | none => .zero false

/-- The reply to a call whose program has ended. -/
def verdict (c : Call) (e : Exit) : Reply :=
  let stdout := Text.decodeDropping e.stdout
  let stderr := Text.decodeDropping e.stderr
  let fails := e.status ≠ 0 && !c.ignoreExitCode
  let complains := Text.isAllBlank stdout && !Text.isAllBlank stderr
  if fails || complains then
    .failed (.fault (.invocation c.command (some e.status) (some stdout) (some stderr)))
  else .output stdout

/-- The reply that an outcome gives. -/
def reply (c : Call) (superseded : Bool) : Outcome → Reply
  | .exited e => if superseded then .replaced else c.verdict e
  | .timedOut => .failed (.fault (.timeout c.command c.reportedTimeout))
  | .cancelled => .failed .cancelled

end Call

/-- A call whose program has been started. -/
structure Invocation where
  id : Nat
  call : Call
  superseded : Bool := false
  deriving Repr

/-- The reply that an outcome gives. -/
def Invocation.reply (i : Invocation) (outcome : Outcome) : Reply :=
  i.call.reply i.superseded outcome

end TypeCoverage
