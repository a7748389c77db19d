import TypeCoverage.Invocation.Running

/-!
# Invocations in time

A `Timeline` runs calls side by side.  Time passes only while a reply is awaited: the
next invocation to end is the one whose program ends, or whose time is up, first.  On its
way a program changes the file tree.  A program that is superseded is killed at once, but
its invocation ends only when nothing holds the output any more.
-/

namespace TypeCoverage

/-- The program of an invocation as time passes, in microseconds. -/
structure Course where
  id : Nat
  began : Nat
  /-- When the program ends. -/
  finish : Nat
  exit : Exit
  /-- When other programs hold the output, from and to. -/
  held : List (Nat × Nat)
  /-- When the wait for the program ends at the latest. -/
  deadline? : Option Nat
  /-- The changes of the file tree still to come. -/
  edits : List (Nat × Edit)

namespace Course

/-- When the time of a call is up that begins at a moment. -/
def deadlineOf (began : Nat) : Option Binary64 → Option Nat
  | none => none
  | some .undefined => some began
  | some seconds =>
    if seconds.isNotPositive then some began
    else (seconds.scale 1000000).round?.map fun n => began + n.toNat

/-- The course of a child that begins at a moment. -/
def ofChild (id began : Nat) (timeout : Option Binary64) (c : Child) : Course :=
  { id := id
    began := began
    finish := began + c.duration
    exit := c.exit
    held := c.held.map fun (low, high) => (began + low, began + high)
    deadline? := deadlineOf began timeout
    edits := c.edits.map fun (moment, e) => (began + moment, e) }

/-- The course of a program that is killed at a moment. -/
def kill (c : Course) (now : Nat) : Course :=
  if c.finish ≤ now then c
  else
    { c with
      finish := (c.held.filter fun (low, high) => low ≤ now && now < high).foldl
        (fun finish (_, high) => max finish high) now
      edits := c.edits.filter (·.1 ≤ now) }

/-- The outcome of a course and its moment. -/
def ending (c : Course) : Nat × Outcome :=
  match c.deadline? with
  | some deadline =>
    if deadline < c.finish then (deadline, .timedOut) else (c.finish, .exited c.exit)
  | none => (c.finish, .exited c.exit)

end Course

/-- Invocations that run side by side, and the replies of those that have ended. -/
structure Timeline where
  programs : Programs
  tree : FileTree
  environment : List (String × String)
  clock : Nat := 0
  running : Running := .empty
  courses : List Course := []
  replies : List (Nat × Reply) := []
  next : Nat := 0

namespace Timeline

/-- Lets time pass up to a moment: the changes of the file tree that are due are made. -/
def passTo (s : Timeline) (moment : Nat) : Timeline :=
  let due := s.courses.flatMap fun c => c.edits.filter (·.1 ≤ moment)
  let due := due.mergeSort fun a b => a.1 ≤ b.1
  { s with
    clock := max s.clock moment
    tree := due.foldl (fun t e => t.edit e.2) s.tree
    courses := s.courses.map fun c => { c with edits := c.edits.filter (moment < ·.1) } }

/-- Ends an invocation. -/
def finish (s : Timeline) (id : Nat) (outcome : Outcome) : Timeline :=
  match s.running.finish? id outcome with
  | none => s
  | some (reply, running) =>
    { s with
      running := running
      courses := s.courses.filter (·.id ≠ id)
      replies := s.replies ++ [(id, reply)] }

/-- Starts a call under the next number.  A call whose program cannot be started has no
effect on the others. -/
def start (s : Timeline) (call : Call) : Nat × Timeline :=
  let s := s.passTo s.clock
  let id := s.next
  let s := { s with next := id + 1 }
  match call.spawn s.programs s.tree s.environment with
  | .error why => (id, { s with replies := s.replies ++ [(id, .failed why)] })
  | .ok child =>
    let courses := match s.running.rival? call with
      | some rival => s.courses.map fun c => if c.id = rival then c.kill s.clock else c
      | none => s.courses
    (id, { s with
      running := s.running.register id call
      courses := courses ++ [.ofChild id s.clock call.timeout child] })

/-- The course that ends first. -/
def first? (s : Timeline) : Option Course :=
  s.courses.foldl (fun best c =>
    match best with
    | none => some c
    | some b => if c.ending.1 < b.ending.1 then some c else some b) none

/-- Lets time pass until the next invocation ends. -/
def advance? (s : Timeline) : Option Timeline :=
  s.first?.map fun c => (s.passTo c.ending.1).finish c.id c.ending.2

/-- Lets time pass until a call is answered, through `rounds` ends at most. -/
def waitFor (id : Nat) : Nat → Timeline → Timeline
  | 0, s => s
  | rounds + 1, s =>
    if (s.replies.lookup id).isSome then s
    else match s.advance? with
      | none => s
      | some s => waitFor id rounds s

/-- Waits for the reply to a call. -/
def wait (s : Timeline) (id : Nat) : Option Reply × Timeline :=
  let s := waitFor id (s.courses.length + 1) s
  (s.replies.lookup id, s)

/-- Cancels a call, unless it has been answered, and waits for its reply. -/
def cancel (s : Timeline) (id : Nat) : Option Reply × Timeline :=
  let s := (s.passTo s.clock).finish id .cancelled
  (s.replies.lookup id, s)

/-- Runs a call to its end. -/
def run (s : Timeline) (call : Call) : Option Reply × Timeline :=
  let (id, s) := s.start call
  s.wait id

end Timeline

end TypeCoverage
