import TypeCoverage.Busy
import TypeCoverage.Servers

/-!
# Requests that outlast a busy checker

A `Request` makes one call of the checker again and again while the checker is busy.
`Request.hear` judges one reply: it ends the request or tells that the checker is busy.
After a busy reply the request asks whether it has been cancelled.  `Request.run` plays a
request against the replies of a checker.
-/

namespace TypeCoverage

/-- A call to be made until it is answered, and the project that it is made for. -/
structure Request where
  call : Call
  config : Option Path := none
  deriving Repr

namespace Request

/-- The states that a request moves through. -/
inductive State where
  | idle
  | requesting
  | transientBusy
  | succeeded
  | failed
  | cancelled
  deriving DecidableEq, Repr

/-- The name of a state. -/
def State.name : State → String
  | idle => "idle"
  | requesting => "requesting"
  | transientBusy => "transient_busy"
  | succeeded => "succeeded"
  | failed => "failed"
  | cancelled => "cancelled"

/-- What a reply means for a request. -/
inductive Heard where
  /-- The request is over: with the text of the checker, with none, or with a failure. -/
  | ended (result : Except Failure (Option String)) (state : State)
  /-- The checker is busy, and is perhaps starting a server. -/
  | busy (starting : Bool)

/-- Judges a reply.  A missing executable has a message of its own, a busy notice of the
checker is no failure, and a failure from outside leaves the request where it was. -/
def hear : Reply → Heard
  | .output text => .ended (.ok (some text)) .succeeded
  | .replaced => .ended (.ok none) .succeeded
  | .failed (.fault (.executableNotFound _)) =>
    .ended (.error (.fault (.lint executableMissingMessage))) .failed
  | .failed (.fault why) =>
    if Busy.isTransient why.message then .busy (Busy.isServerStarting why.message)
    else .ended (.error (.fault why)) .failed
  | .failed why => .ended (.error why) .requesting

/-- The project whose server a busy checker is starting. -/
def startedRoot (starting : Bool) (config : Option Path) : Option Path :=
  if starting then config.map Path.parent else none

/-- Answers to the question whether a request has been cancelled; the last one repeats. -/
def nextAnswer : List Bool → Bool × List Bool
  | [] => (false, [])
  | [answer] => (answer, [answer])
  | answer :: answers => (answer, answers)

/-- A request with everything that it has used up and found out so far. -/
structure Progress where
  state : State := .idle
  attempts : Nat := 0
  /-- The calls that have been made. -/
  calls : List Call := []
  /-- The states in which the request asked whether it had been cancelled. -/
  consulted : List State := []
  /-- What will be answered to that question, if it is asked at all. -/
  answers : Option (List Bool) := none
  /-- The record of servers, if there is one. -/
  servers : Option Servers := none

/-- Makes a call. -/
def Progress.attempt (p : Progress) (call : Call) : Progress :=
  { p with state := .requesting, attempts := p.attempts + 1, calls := p.calls ++ [call] }

/-- Records the server that a busy checker is starting. -/
def Progress.record (p : Progress) (root : Option Path) : Progress :=
  match root with
  | some root => { p with servers := p.servers.map (·.add root) }
  | none => p

/-- Asks whether the request has been cancelled. -/
def Progress.ask (p : Progress) : Bool × Progress :=
  match p.answers with
  | none => (false, p)
  | some answers =>
    let (answer, answers) := nextAnswer answers
    (answer, { p with answers := some answers, consulted := p.consulted ++ [p.state] })

/-- What a request has come to: its progress, its result and the replies not used. -/
structure Outcome where
  progress : Progress
  result : Except Failure (Option String)
  left : List Reply

/-- Runs a request against the replies of the checker. -/
def run (r : Request) (p : Progress) : List Reply → Outcome
  | [] => ⟨p.attempt r.call, .error (.runtime "no more responses"), []⟩
  | reply :: replies =>
    let p := p.attempt r.call
    match hear reply with
    | .ended result state => ⟨{ p with state := state }, result, replies⟩
    | .busy starting =>
      let p := { p with state := .transientBusy }.record (startedRoot starting r.config)
      match p.ask with
      | (true, p) => ⟨{ p with state := .cancelled }, .ok none, replies⟩
      | (false, p) => r.run p replies

end Request

end TypeCoverage
