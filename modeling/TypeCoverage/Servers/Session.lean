import TypeCoverage.Servers

/-!
# Stopping servers in the background

A session runs stop tasks against a checker.  A call takes the next reply that lies ready
or waits until it is answered.  A task that waits for stop tasks ends when all those have
finished that were running when it began.  `Session.respond` answers a call that waits,
and `Session.cancel` ends a stop task without a reply.
-/

namespace TypeCoverage.Servers

/-- A record of servers with its stop tasks, the replies that lie ready, the tasks that
wait for a reply in the order in which they began to, and those that wait for others. -/
structure Session where
  servers : Servers := .empty
  replies : List Reply
  /-- The stop tasks that wait for a reply. -/
  waiting : List Nat := []
  /-- The tasks that wait for stop tasks, with those they still wait for. -/
  waiters : List (Nat × List Nat) := []
  /-- The calls made since the last look. -/
  calls : List Call := []
  /-- The waiting tasks that have ended since the last look. -/
  ended : List Nat := []

namespace Session

/-- A stop task has finished, for whoever waits for it. -/
def finish (s : Session) (id : Nat) : Session :=
  let waiters := s.waiters.map fun (task, ids) => (task, ids.erase id)
  { s with
    servers := s.servers.finish id
    waiting := s.waiting.erase id
    waiters := waiters.filter (!·.2.isEmpty)
    ended := s.ended ++ (waiters.filter (·.2.isEmpty)).map (·.1) }

/-- Runs a stop task up to its reply.  Without an executable it has nothing to call. -/
def runTask (s : Session) (resolve : Path → Option String) (timeout : Option Binary64)
    (task : StopTask) : Session :=
  match resolve task.root with
  | none => s.finish task.id
  | some executable =>
    let s := { s with calls := s.calls ++ [stopCall executable task.root timeout] }
    match s.replies with
    | [] => { s with waiting := s.waiting ++ [task.id] }
    | _ :: replies => { s with replies := replies }.finish task.id

/-- Lets a task wait for all stop tasks that are running. -/
def await (s : Session) (task : Nat) : Session :=
  if s.servers.pending.isEmpty then { s with ended := s.ended ++ [task] }
  else { s with waiters := s.waiters ++ [(task, s.servers.pending)] }

/-- Schedules a stop task for each server.  A task may wait for them all. -/
def stopAll (s : Session) (resolve : Path → Option String) (timeout : Option Binary64)
    (waiter : Option Nat) : Session × List StopTask :=
  let (servers, tasks) := s.servers.stopAll
  let s := { s with servers := servers }
  let s := match waiter with
    | some task => s.await task
    | none => s
  (tasks.foldl (fun s task => s.runTask resolve timeout task) s, tasks)

/-- Answers a call that waits, whatever the reply. -/
def respond? (s : Session) (index : Nat) : Option Session :=
  s.waiting[index]?.map s.finish

/-- Ends a stop task without a reply. -/
def cancel (s : Session) (id : Nat) : Session :=
  if s.servers.pending.contains id then s.finish id else s

end Session

end TypeCoverage.Servers
