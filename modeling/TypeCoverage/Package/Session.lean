import TypeCoverage.Package.Basic

/-!
# Sessions of a package in a host

A `Package.Session` runs lints and stop tasks of a package beside one another.  A call of
the checker takes the next reply that lies ready, or waits until it is answered; the
calls that wait stand in the order in which they began to.  Between two steps of the host
everything runs that can.

Each task has a number, the one of its start.  A lint and a task that waits for stop tasks
are reported when they have ended; the session keeps their results until it is asked.
-/

namespace TypeCoverage.Package

/-- A task that has not ended. -/
inductive Job where
  /-- A lint that waits for the checker. -/
  | lint (pending : Lint.Pending)
  /-- A stop task, by its number among the stop tasks, that waits for the checker. -/
  | stop (task : Nat) (call : Call)
  /-- A task that waits for stop tasks. -/
  | await (tasks : List Nat)
  deriving Repr

/-- A package with the tasks that run for it and the world around it. -/
structure Session where
  package : Package
  tree : FileTree
  memo : Memo := .empty
  timeout : Option Binary64 := some defaultTimeout
  /-- The active document of the host. -/
  focus : Option Document := none
  /-- The notifications that the current host has shown. -/
  notifications : Nat := 0
  replies : List Reply := []
  /-- The tasks whose calls wait, in the order in which they began to. -/
  waiting : List Nat := []
  jobs : List (Nat × Job) := []
  /-- The number of the next task. -/
  next : Nat := 0
  /-- What the host has seen since the last look. -/
  events : List Event := []
  /-- The tasks that have ended since the last look. -/
  ended : List (Nat × Lint.Result) := []

namespace Session

/-- Counts the notifications among some events. -/
def countNotifications (events : List Event) : Nat :=
  events.countP fun
    | .notify .. => true
    | _ => false

/-- Shows the host some events. -/
def emit (s : Session) (events : List Event) : Session :=
  { s with
    events := s.events ++ events
    notifications := s.notifications + countNotifications events }

/-- Lets an operation of the package take effect. -/
def commit (s : Session) (step : Package × List Event) : Session :=
  { s with package := step.1 }.emit step.2

/-- Lets an operation of the package take effect that may fail. -/
def commitEffect (s : Session) (e : Effect) : Session × Except Failure Unit :=
  (s.commit (e.package, e.events), e.result)

/-- A task has ended. -/
def endTask (s : Session) (id : Nat) (result : Lint.Result) : Session :=
  { s with ended := s.ended ++ [(id, result)] }

/-- Puts a task on the list of those that wait for a reply. -/
def wait (s : Session) (id : Nat) (job : Job) : Session :=
  { s with waiting := s.waiting ++ [id], jobs := s.jobs ++ [(id, job)] }

/-- The waiting tasks that end when a stop task finishes. -/
def released (task : Nat) (jobs : List (Nat × Job)) : List Nat :=
  jobs.filterMap fun
    | (id, .await tasks) => if tasks = [task] then some id else none
    | _ => none

/-- The jobs that are left when a stop task finishes. -/
def withoutStop (task : Nat) (jobs : List (Nat × Job)) : List (Nat × Job) :=
  jobs.filterMap fun
    | (id, .await tasks) => if tasks = [task] then none else some (id, .await (tasks.erase task))
    | (id, .stop other call) => if other = task then none else some (id, .stop other call)
    | job => some job

/-- A stop task has finished, for whoever waits for it. -/
def finishStop (s : Session) (task : Nat) : Session :=
  { s with
    package := { s.package with servers := s.package.servers.finish task }
    jobs := withoutStop task s.jobs
    ended := s.ended ++ (released task s.jobs).map fun id => (id, .ok none) }

/-- A lint calls the checker, and again after each reply that lies ready, until it ends or
has to wait. -/
def converse (s : Session) (id : Nat) (lint : Lint.Pending) : List Reply → Session
  | [] => { s with replies := [] }.emit [.call lint.call] |>.wait id (.lint lint)
  | reply :: replies =>
    let s := { s with replies := replies }.emit [.call lint.call]
    let (package, events, step) := s.package.hearReply lint reply
    let s := s.commit (package, events)
    match step with
    | .ended result => s.endTask id result
    | .again => s.converse id lint replies

/-- A lint hears the reply that it has been waiting for. -/
def hear (s : Session) (id : Nat) (lint : Lint.Pending) (reply : Reply) : Session :=
  let (package, events, step) := s.package.hearReply lint reply
  let s := s.commit (package, events)
  match step with
  | .ended result => s.endTask id result
  | .again => s.converse id lint s.replies

/-- Starts a lint of a document. -/
def lint (s : Session) (document : Document) : Session :=
  let id := s.next
  let s := { s with next := id + 1 }
  match Lint.begin s.package.settings s.timeout s.tree s.memo document with
  | (.ended result, memo) => { s with memo := memo }.endTask id result
  | (.calls pending, memo) => { s with memo := memo }.converse id pending s.replies

/-- Runs a stop task up to its reply. -/
def runStop (configured : String) (s : Session) (task : StopTask) : Session :=
  let (executable, memo) :=
    Locator.resolveExecutable s.tree s.memo task.root.text configured
  let id := s.next
  let call := Servers.stopCall executable task.root (some defaultTimeout)
  let s := { s with memo := memo, next := id + 1 }.emit [.call call]
  match s.replies with
  | [] => s.wait id (.stop task.id call)
  | _ :: replies => { s with replies := replies }.finishStop task.id

/-- Attaches the current host. -/
def activate (s : Session) : Session := s.commit (s.package.activate s.focus)

/-- Makes a fresh host the current one, in which no document is active. -/
def newHost (s : Session) : Session := { s with focus := none, notifications := 0 }

/-- Detaches the host. -/
def deactivate (s : Session) (stopServers : Bool) : Session :=
  let configured := s.package.settings.executablePath
  let (package, events, tasks) := s.package.deactivate stopServers
  tasks.foldl (runStop configured) (s.commit (package, events))

/-- Starts a task that waits for all stop tasks. -/
def waitPending (s : Session) : Session :=
  let id := s.next
  let s := { s with next := id + 1 }
  match s.package.servers.pending with
  | [] => s.endTask id (.ok none)
  | tasks => { s with jobs := s.jobs ++ [(id, .await tasks)] }

/-- Removes a task from those that have not ended. -/
def forget (s : Session) (id : Nat) : Session :=
  { s with waiting := s.waiting.erase id, jobs := s.jobs.filter (·.1 ≠ id) }

/-- Answers the call of a task, if it waits for the checker. -/
def answer? (s : Session) (id : Nat) (reply : Reply) : Option Session :=
  match s.jobs.lookup id with
  | some (.lint pending) => some ((s.forget id).hear id pending reply)
  | some (.stop task _) => some ((s.forget id).finishStop task)
  | _ => none

/-- Answers the call at a place among those that wait, if there is one. -/
def respond? (s : Session) (index : Nat) (reply : Reply) : Option Session :=
  s.waiting[index]?.bind fun id => s.answer? id reply

/-- Cancels a stop task. -/
def cancelStop (s : Session) (task : Nat) : Session :=
  let ids := s.jobs.filterMap fun
    | (id, .stop other _) => if other = task then some id else none
    | _ => none
  (ids.foldl forget s).finishStop task

/-- Cancels a task, if it has not ended; one that waits for stop tasks takes them with
it. -/
def cancel? (s : Session) (id : Nat) : Option Session :=
  match s.jobs.lookup id with
  | some (.lint _) => some ((s.forget id).endTask id (.error .cancelled))
  | some (.await tasks) =>
    some ((tasks.foldl cancelStop (s.forget id)).endTask id (.error .cancelled))
  | _ => none

/-- The host presses the button of one of its notifications, if there is such a one. -/
def press? (s : Session) (index : Nat) : Option Session :=
  if index < s.notifications then some (s.emit [.restart]) else none

/-- The host dismisses one of its notifications, if there is such a one. -/
def dismiss? (s : Session) (index : Nat) : Option Session :=
  if index < s.notifications then some { s with package := s.package.dismissed } else none

/-- A click on the tile, if the package shows something on it. -/
def click? (s : Session) : Option Session :=
  if s.package.attached then some (s.commit (s.package.click s.focus)) else none

/-- The call that has been waiting longest, if one waits. -/
def firstCall? (s : Session) : Option Call :=
  match s.waiting.head?.bind fun id => s.jobs.lookup id with
  | some (.lint pending) => some pending.call
  | some (.stop _ call) => some call
  | _ => none

/-- Takes note of what has happened since the last look. -/
def look (s : Session) : Session := { s with events := [], ended := [] }

end Session

end TypeCoverage.Package
