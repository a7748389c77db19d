import TypeCoverage.Servers
import Mathlib.Data.List.Induction
import Mathlib.Data.List.Nodup

/-!
# Stop tasks in any order

Servers are recorded, all are to be stopped, and the tasks that stop them begin, are
answered and are cancelled, in whatever order.  `Stops` keeps beside the record what each
stop task has asked and called and how it has ended, and who waits for which tasks.

A stop task asks for the checker of its project and, if there is one, calls it.  Only its
cancellation gets out of it; every other failure is discarded.  One who waits for tasks is
handed their failures back and raises none of them.

`Accounts` says how the record, the tasks and those who wait belong together, and every
event keeps it (`Accounts.step`).
-/

namespace TypeCoverage

namespace Path

end Path

/-- What the reply to a call means for the one who waits for it. -/
def Reply.outcome : Reply → Except Failure Unit
  | .output _ => .ok ()
  | .replaced => .ok ()
  | .failed why => .error why

/-- A call that stops the server of a project: it says `stop` in the project, is detached from
the one who makes it, and may end with any status. -/
structure Call.IsStop (c : Call) (executable : String) (root : Path)
    (timeout : Option Binary64) : Prop where
  executable : c.executable = executable
  args : c.args = ["stop"]
  cwd : c.cwd = some root
  timeout : c.timeout = timeout
  detached : c.detached = true
  ignoreExitCode : c.ignoreExitCode = true
  unkeyed : c.uniqueKey = none

namespace Servers

theorem nodup_roots_add {s : Servers} (distinct : s.roots.Nodup) (root : Path) :
  (s.add root).roots.Nodup
  := by
  unfold add
  split
  · exact distinct
  · next h =>
    have : root ∉ s.roots := fun mem => h (List.contains_iff_mem.2 mem)
    rw [← List.concat_eq_append]
    exact distinct.concat this

/-- The stop tasks of a round are numbered on. -/
theorem map_id_stopAll (s : Servers) :
  s.stopAll.2.map (·.id) = (List.range s.stopAll.2.length).map (s.scheduled + ·)
  := by
  apply List.ext_getElem <;> simp [stopAll]

theorem scheduled_stopAll (s : Servers) :
  s.stopAll.1.scheduled = s.scheduled + s.stopAll.2.length
  := rfl

theorem pending_stopAll (s : Servers) :
  s.stopAll.1.pending = s.pending ++ s.stopAll.2.map (·.id)
  := rfl

/-! ### Stop tasks -/

theorem isStop_stopCall (executable : String) (root : Path) (timeout : Option Binary64) :
  (stopCall executable root timeout).IsStop executable root timeout
  := ⟨rfl, rfl, rfl, rfl, rfl, rfl, rfl⟩

/-- What a stop task does outside. -/
inductive Deed where
  /-- It asks for the checker of a project and gets an answer. -/
  | asked (root : Path) (answer : Except Failure String)
  /-- It calls the checker. -/
  | called (call : Call)

/-- How a stop task ends on an outcome.  Only a cancellation gets through. -/
def discard : Except Failure Unit → Except Failure Unit
  | .error .cancelled => .error .cancelled
  | _ => .ok ()

/-- A stop task with the time that its call may take, what it has done so far, and how it
has ended, if it has. -/
structure Course where
  task : StopTask
  timeout : Option Binary64
  deeds : List Deed := []
  result? : Option (Except Failure Unit) := none

/-- What is told to a stop task. -/
inductive Turn where
  /-- It begins, and this is the answer when it asks for the checker. -/
  | begun (answer : Except Failure String)
  /-- Its call has been answered. -/
  | replied (reply : Reply)
  | cancelled

namespace Course

/-- A task that has not begun. -/
def start (timeout : Option Binary64) (task : StopTask) : Course := { task, timeout }

/-- The task has not ended. -/
def isRunning (c : Course) : Bool := c.result?.isNone

/-- The task ends on an outcome. -/
def endOn (c : Course) (outcome : Except Failure Unit) : Course :=
  { c with result? := some (discard outcome) }

/-- The task asks for the checker of its project and goes on to call it. -/
def ask (c : Course) (answer : Except Failure String) : Course :=
  let c := { c with deeds := c.deeds ++ [Deed.asked c.task.root answer] }
  match answer with
  | .ok executable =>
    { c with deeds := c.deeds ++ [Deed.called (stopCall executable c.task.root c.timeout)] }
  | .error why => c.endOn (.error why)

/-- The task after it was told something.  A task that has ended hears nothing, and a call
is answered only if there is one. -/
def turn (c : Course) : Turn → Course
  | .begun answer => if c.isRunning && c.deeds.isEmpty then c.ask answer else c
  | .replied reply => if c.isRunning && !c.deeds.isEmpty then c.endOn reply.outcome else c
  | .cancelled => if c.isRunning then c.endOn (.error .cancelled) else c

/-- All that a stop task can have done.  It asks once for the checker of its project, calls
it once if there is one, and ends when that fails, is answered or is cancelled. -/
inductive Conduct (task : StopTask) (timeout : Option Binary64) : Course → Prop
  | fresh : Conduct task timeout ⟨task, timeout, [], none⟩
  /-- It was cancelled before it could begin. -/
  | neverBegun : Conduct task timeout ⟨task, timeout, [], some (.error .cancelled)⟩
  /-- There was no checker to call. -/
  | refused (why : Failure) :
    Conduct task timeout
      ⟨task, timeout, [.asked task.root (.error why)], some (discard (.error why))⟩
  | calling {executable : String} {call : Call}
      (stops : call.IsStop executable task.root timeout) :
    Conduct task timeout
      ⟨task, timeout, [.asked task.root (.ok executable), .called call], none⟩
  /-- The call was answered or cancelled. -/
  | finished {executable : String} {call : Call}
      (stops : call.IsStop executable task.root timeout) (outcome : Except Failure Unit) :
    Conduct task timeout
      ⟨task, timeout, [.asked task.root (.ok executable), .called call],
        some (discard outcome)⟩

theorem conduct_turn {task : StopTask} {timeout : Option Binary64} {c : Course}
    (conduct : Conduct task timeout c) (turn : Turn) :
  Conduct task timeout (c.turn turn)
  := by
  cases conduct with
  | fresh =>
    cases turn with
    | begun answer =>
      cases answer with
      | ok executable => exact .calling (isStop_stopCall executable task.root timeout)
      | error why => exact .refused why
    | replied => exact .fresh
    | cancelled => exact .neverBegun
  | neverBegun => cases turn <;> exact .neverBegun
  | refused why => cases turn <;> exact .refused why
  | calling stops =>
    cases turn with
    | begun => exact .calling stops
    | replied reply => exact .finished stops reply.outcome
    | cancelled => exact .finished stops (.error .cancelled)
  | finished stops outcome => cases turn <;> exact .finished stops outcome

@[simp]
theorem task_turn (c : Course) (turn : Turn) :
  (c.turn turn).task = c.task
  := by
  cases turn with
  | begun answer => cases answer <;> simp only [Course.turn] <;> split <;> rfl
  | replied => simp only [Course.turn]; split <;> rfl
  | cancelled => simp only [Course.turn]; split <;> rfl

@[simp]
theorem timeout_turn (c : Course) (turn : Turn) :
  (c.turn turn).timeout = c.timeout
  := by
  cases turn with
  | begun answer => cases answer <;> simp only [Course.turn] <;> split <;> rfl
  | replied => simp only [Course.turn]; split <;> rfl
  | cancelled => simp only [Course.turn]; split <;> rfl

/-- A task that has ended stays as it is. -/
theorem turn_of_not_isRunning {c : Course} (ended : c.isRunning = false) (turn : Turn) :
  c.turn turn = c
  := by
  cases turn <;> simp [Course.turn, ended]

end Course

/-! ### Those who wait -/

/-- What comes of waiting for tasks together: their failures are handed back, or the first
of them is raised. -/
def gather (handBack : Bool) (results : List (Except Failure Unit)) : Except Failure Unit :=
  if handBack then .ok () else results.forM id

/-- A task that waits for stop tasks, and how it has ended, if it has. -/
structure Waiter where
  task : Nat
  awaited : List Nat
  result? : Option (Except Failure Unit) := none

/-- One who waits for tasks ends when all of them have. -/
def Waiter.wake (w : Waiter) (result? : Nat → Option (Except Failure Unit)) : Waiter :=
  if w.result?.isNone && w.awaited.all (result? · |>.isSome) then
    { w with result? := some (gather true (w.awaited.filterMap result?)) }
  else w

/-! ### The whole -/

/-- A record of servers with all stop tasks that were scheduled and all who have waited. -/
structure Stops where
  servers : Servers := .empty
  courses : List Course := []
  waiters : List Waiter := []

namespace Stops

/-- Something that happens to the servers. -/
inductive Event where
  | add (root : Path)
  /-- All servers are to be stopped, and a task may wait for that. -/
  | stopAll (timeout : Option Binary64) (waiter : Option Nat)
  /-- A task begins to wait for all stop tasks that are running. -/
  | wait (waiter : Nat)
  /-- Something is told to a stop task. -/
  | turn (id : Nat) (turn : Turn)

/-- How a stop task has ended, if it has. -/
def result? (s : Stops) (id : Nat) : Option (Except Failure Unit) :=
  (s.courses.find? (·.task.id = id)).bind (·.result?)

/-- Schedules a task for each server. -/
def schedule (s : Stops) (timeout : Option Binary64) : Stops :=
  { s with
    servers := s.servers.stopAll.1
    courses := s.courses ++ s.servers.stopAll.2.map (.start timeout) }

/-- Lets a task wait for all stop tasks that are running. -/
def await (s : Stops) (waiter : Nat) : Stops :=
  { s with waiters := s.waiters ++ [{ task := waiter, awaited := s.servers.pending }] }

/-- A stop task ends when something is told to it. -/
def ends (s : Stops) (id : Nat) (turn : Turn) : Bool :=
  s.courses.any fun c => c.task.id = id && c.isRunning && !(c.turn turn).isRunning

/-- Tells something to a stop task.  If it ends, it is no longer pending. -/
def tell (s : Stops) (id : Nat) (turn : Turn) : Stops :=
  { s with
    courses := s.courses.map fun c => if c.task.id = id then c.turn turn else c
    servers := if s.ends id turn then s.servers.finish id else s.servers }

/-- Wakes those who wait for no task that is still running. -/
def wake (s : Stops) : Stops :=
  { s with waiters := s.waiters.map (·.wake s.result?) }

/-- What an event does, but for those who wait. -/
def advance (s : Stops) : Event → Stops
  | .add root => { s with servers := s.servers.add root }
  | .stopAll timeout none => s.schedule timeout
  | .stopAll timeout (some waiter) => (s.schedule timeout).await waiter
  | .wait waiter => s.await waiter
  | .turn id turn => s.tell id turn

/-- The whole after an event. -/
def step (s : Stops) (event : Event) : Stops := (s.advance event).wake

/-- The whole after some events, beginning with no server. -/
def run (events : List Event) : Stops := events.foldl step {}

@[simp]
theorem run_append (past events : List Event) :
  run (past ++ events) = events.foldl step (run past)
  := by
  simp [run]

/-! ### How they belong together -/

/-- The record, the tasks and those who wait belong together.  The tasks that have not
ended are the pending ones, and one who has stopped waiting has raised nothing and waits
for no pending task. -/
structure Accounts (s : Stops) : Prop where
  distinct : s.servers.roots.Nodup
  numbered : s.courses.map (·.task.id) = List.range s.servers.scheduled
  pending : s.servers.pending = (s.courses.filter (·.isRunning)).map (·.task.id)
  conduct : ∀ c ∈ s.courses, c.Conduct c.task c.timeout
  awaited : ∀ w ∈ s.waiters, ∀ id ∈ w.awaited, id < s.servers.scheduled
  woken : ∀ w ∈ s.waiters, w.result?.isSome →
    w.result? = some (.ok ()) ∧ ∀ id ∈ w.awaited, id ∉ s.servers.pending

namespace Accounts

variable {s : Stops}

theorem nodup_ids (accounts : s.Accounts) :
  (s.courses.map (·.task.id)).Nodup
  := by
  rw [accounts.numbered]
  exact List.nodup_range

theorem course_unique (accounts : s.Accounts) {c d : Course} (mem : c ∈ s.courses)
    (mem' : d ∈ s.courses) (same : c.task.id = d.task.id) :
  c = d
  := List.inj_on_of_nodup_map accounts.nodup_ids mem mem' same

theorem id_lt (accounts : s.Accounts) {c : Course} (mem : c ∈ s.courses) :
  c.task.id < s.servers.scheduled
  := by
  rw [← List.mem_range, ← accounts.numbered]
  exact List.mem_map_of_mem mem

theorem mem_pending (accounts : s.Accounts) {c : Course} (mem : c ∈ s.courses) :
  c.task.id ∈ s.servers.pending ↔ c.isRunning = true
  := by
  rw [accounts.pending, List.mem_map]
  constructor
  · rintro ⟨d, running, same⟩
    rw [List.mem_filter] at running
    rw [← accounts.course_unique running.1 mem same]
    exact running.2
  · intro running
    exact ⟨c, List.mem_filter.2 ⟨mem, running⟩, rfl⟩

theorem nodup_pending (accounts : s.Accounts) :
  s.servers.pending.Nodup
  := by
  rw [accounts.pending]
  exact accounts.nodup_ids.sublist (List.filter_sublist.map _)

theorem pending_lt (accounts : s.Accounts) {id : Nat} (mem : id ∈ s.servers.pending) :
  id < s.servers.scheduled
  := by
  rw [accounts.pending] at mem
  obtain ⟨c, running, rfl⟩ := List.mem_map.1 mem
  exact accounts.id_lt (List.mem_filter.1 running).1

/-- A task has ended exactly if it was scheduled and is not pending. -/
theorem isSome_result? (accounts : s.Accounts) {id : Nat} (known : id < s.servers.scheduled) :
  (s.result? id).isSome = true ↔ id ∉ s.servers.pending
  := by
  rw [← List.mem_range, ← accounts.numbered] at known
  obtain ⟨c, mem, rfl⟩ := List.mem_map.1 known
  have found : s.courses.find? (·.task.id = c.task.id) = some c := by
    cases h : s.courses.find? (·.task.id = c.task.id) with
    | none => simp [List.find?_eq_none] at h; exact absurd rfl (h c mem)
    | some d =>
      have same := List.find?_some h
      rw [accounts.course_unique (List.mem_of_find?_eq_some h) mem (by simpa using same)]
  rw [accounts.mem_pending mem, result?, found]
  simp [Course.isRunning, Option.isSome_iff_ne_none]

theorem add (accounts : s.Accounts) (root : Path) :
  Accounts { s with servers := s.servers.add root }
  := by
  have pending : (s.servers.add root).pending = s.servers.pending := by
    unfold Servers.add; split <;> rfl
  have scheduled : (s.servers.add root).scheduled = s.servers.scheduled := by
    unfold Servers.add; split <;> rfl
  exact {
    distinct := nodup_roots_add accounts.distinct root
    numbered := by rw [scheduled, accounts.numbered]
    pending := by rw [pending, accounts.pending]
    conduct := accounts.conduct
    awaited := by simpa only [scheduled] using accounts.awaited
    woken := by simpa only [pending] using accounts.woken }

theorem schedule (accounts : s.Accounts) (timeout : Option Binary64) :
  (s.schedule timeout).Accounts
  where
  distinct := List.nodup_nil
  numbered := by
    simp only [Stops.schedule, scheduled_stopAll, List.map_append, List.map_map,
      accounts.numbered, List.range_add]
    rw [← map_id_stopAll]
    rfl
  pending := by
    simp only [Stops.schedule, pending_stopAll, List.filter_append, List.map_append,
      accounts.pending]
    simp [List.filter_map, Course.isRunning, Course.start, Function.comp_def]
  conduct c mem := by
    rcases List.mem_append.1 mem with mem | mem
    · exact accounts.conduct c mem
    · obtain ⟨task, -, rfl⟩ := List.mem_map.1 mem
      exact .fresh
  awaited w mem id mem' := by
    rw [Stops.schedule, scheduled_stopAll]
    exact Nat.lt_add_right _ (accounts.awaited w mem id mem')
  woken w mem ended := by
    obtain ⟨result, done⟩ := accounts.woken w mem ended
    refine ⟨result, fun id mem' => ?_⟩
    simp only [Stops.schedule, pending_stopAll, map_id_stopAll, List.mem_append, List.mem_map,
      not_or]
    refine ⟨done id mem', ?_⟩
    rintro ⟨n, -, rfl⟩
    have := accounts.awaited w mem _ mem'
    omega

theorem await (accounts : s.Accounts) (waiter : Nat) :
  (s.await waiter).Accounts
  := by
  refine { accounts with awaited := ?_, woken := ?_ }
  · intro w mem id mem'
    rcases List.mem_append.1 mem with mem | mem
    · exact accounts.awaited w mem id mem'
    · obtain rfl := List.mem_singleton.1 mem
      exact accounts.pending_lt mem'
  · intro w mem ended
    rcases List.mem_append.1 mem with mem | mem
    · exact accounts.woken w mem ended
    · obtain rfl := List.mem_singleton.1 mem
      cases ended

/-- After something was told to a task, the others run as before, and it runs unless it
has ended. -/
theorem isRunning_tell (accounts : s.Accounts) (id : Nat) (turn : Turn) {c : Course}
    (mem : c ∈ s.courses) :
  (if c.task.id = id then c.turn turn else c).isRunning =
    (c.isRunning && !(decide (c.task.id = id) && s.ends id turn))
  := by
  split
  · next same =>
    have ends : s.ends id turn = (c.isRunning && !(c.turn turn).isRunning) := by
      rw [Bool.eq_iff_iff, ends, List.any_eq_true]
      constructor
      · rintro ⟨d, mem', h⟩
        have : d = c := accounts.course_unique mem' mem (by simp_all)
        simp_all
      · intro h
        exact ⟨c, mem, by simp_all⟩
    rw [ends]
    cases running : c.isRunning with
    | false => simp [Course.turn_of_not_isRunning running, running]
    | true => simp [same]
  · next other => simp [other]

theorem tell (accounts : s.Accounts) (id : Nat) (turn : Turn) :
  (s.tell id turn).Accounts
  := by
  have scheduled : (s.tell id turn).servers.scheduled = s.servers.scheduled := by
    simp only [Stops.tell]; split <;> rfl
  have fewer : (s.tell id turn).servers.pending ⊆ s.servers.pending := by
    simp only [Stops.tell]
    split
    · exact List.erase_subset
    · exact List.Subset.refl _
  have ids (c : Course) : (if c.task.id = id then c.turn turn else c).task.id = c.task.id := by
    split <;> simp
  exact {
    distinct := by simp only [Stops.tell]; split <;> exact accounts.distinct
    numbered := by
      rw [scheduled, ← accounts.numbered]
      simp [Stops.tell, ids]
    pending := by
      have running : (s.tell id turn).courses.filter (·.isRunning) = (s.courses.filter fun c =>
          c.isRunning && !(decide (c.task.id = id) && s.ends id turn)).map
            fun c => if c.task.id = id then c.turn turn else c := by
        rw [Stops.tell, List.filter_map]
        congr 1
        apply List.filter_congr
        intro c mem
        exact accounts.isRunning_tell id turn mem
      rw [running, List.map_map]
      simp only [Function.comp_def, ids]
      cases ends : s.ends id turn with
      | false => simp [Stops.tell, ends, accounts.pending]
      | true =>
        simp only [Stops.tell, ends, if_true, finish, Bool.and_true]
        rw [accounts.nodup_pending.erase_eq_filter, accounts.pending, List.filter_map,
          List.filter_filter]
        congr 1
        apply List.filter_congr
        intro c _
        rw [Bool.and_comm]
        rfl
    conduct := by
      intro c mem
      obtain ⟨d, known, rfl⟩ := List.mem_map.1 mem
      split
      · simpa using Course.conduct_turn (accounts.conduct d known) turn
      · exact accounts.conduct d known
    awaited := by
      rw [scheduled]
      exact accounts.awaited
    woken := by
      intro w mem ended
      obtain ⟨result, done⟩ := accounts.woken w mem ended
      exact ⟨result, fun id mem pending => done id mem (fewer pending)⟩ }

theorem wake (accounts : s.Accounts) :
  s.wake.Accounts
  := by
  refine { accounts with awaited := ?_, woken := ?_ }
  · intro w mem
    obtain ⟨v, known, rfl⟩ := List.mem_map.1 mem
    unfold Waiter.wake
    split <;> exact accounts.awaited v known
  · intro w mem
    obtain ⟨v, known, rfl⟩ := List.mem_map.1 mem
    unfold Waiter.wake
    split
    · next done =>
      rw [Bool.and_eq_true, List.all_eq_true] at done
      intro _
      refine ⟨rfl, fun id mem' => ?_⟩
      exact (accounts.isSome_result? (accounts.awaited v known id mem')).1 (done.2 id mem')
    · exact accounts.woken v known

theorem advance (accounts : s.Accounts) (event : Event) :
  (s.advance event).Accounts
  := by
  cases event with
  | add root => exact accounts.add root
  | stopAll timeout waiter =>
    cases waiter with
    | none => exact accounts.schedule timeout
    | some waiter => exact (accounts.schedule timeout).await waiter
  | wait waiter => exact accounts.await waiter
  | turn id turn => exact accounts.tell id turn

theorem step (accounts : s.Accounts) (event : Event) :
  (s.step event).Accounts
  := (accounts.advance event).wake

end Accounts

theorem accounts_run (events : List Event) :
  (run events).Accounts
  := by
  induction events using List.reverseRecOn with
  | nil =>
    constructor <;> simp [run, empty]
  | append_singleton past event ih =>
    rw [run_append]
    exact ih.step event

end Stops

end Servers

end TypeCoverage
