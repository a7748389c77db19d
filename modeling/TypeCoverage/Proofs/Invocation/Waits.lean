import TypeCoverage.Proofs.Cut
import TypeCoverage.Proofs.Invocation.Succession

/-!
# Waiting for programs

The wait for a started program has stages.  At first the ends of the program and of its
output are awaited.  When the time is up or the task is cancelled, the program is killed,
and from then on only its own end is awaited.  `Waits` are invocations that are waited for
side by side.  Programs end, outputs end and waits go on in any order, and at any moment,
even while the end of a killed program is awaited, a call may be started that supersedes
an invocation and kills its program.

What happens to the calls themselves is kept in a log, which makes a dispatch
(`Waits.dispatch`), and every timeline has waits that mirror it
(`Timeline.Reached.exists_waits`).  An event stops a wait or keeps it (`Waits.wait_step`),
so that its stage can be read off the events so far (`Waits.stage_iff`).
-/

namespace TypeCoverage

/-- What is awaited of a program. -/
inductive Wait.Stage where
  /-- The ends of the program and of its output. -/
  | output
  /-- The end of the program, which has been killed because its time was up. -/
  | overdue
  /-- The end of the program, which has been killed because its task was cancelled. -/
  | abandoned
  deriving DecidableEq, Repr

/-- A program as it is seen by the one that waits for it. -/
structure Wait where
  stage : Wait.Stage := .output
  /-- The status with which the program has ended. -/
  status? : Option Int := none
  /-- What has been written to the standard output and the standard error, once nothing
  holds them any more.  Descendants of the program can hold them longer than the program
  itself. -/
  written? : Option (List UInt8 × List UInt8) := none
  killed : Bool := false
  deriving Repr

namespace Wait

/-- Kills the program, unless it has ended. -/
def kill (w : Wait) : Wait := if w.status?.isNone then { w with killed := true } else w

/-- The program ends. -/
def exit (w : Wait) (status : Int) : Wait := { w with status? := w.status?.or (some status) }

/-- The output ends. -/
def close (w : Wait) (stdout stderr : List UInt8) : Wait :=
  { w with written? := w.written?.or (some (stdout, stderr)) }

/-- Stops waiting for the output. -/
def stop (w : Wait) (stage : Stage) : Wait :=
  if w.stage = .output then { w.kill with stage } else w

/-- The outcome of the wait, if there is nothing left to wait for. -/
def outcome? (w : Wait) : Option Outcome :=
  match w.stage, w.status?, w.written? with
  | .output, some status, some (stdout, stderr) => some (.exited ⟨status, stdout, stderr⟩)
  | .overdue, some _, _ => some .timedOut
  | .abandoned, some _, _ => some .cancelled
  | _, _, _ => none

/-- The program has ended, or will as it has been killed. -/
def Doomed (w : Wait) : Prop := w.killed = true ∨ w.status?.isSome

@[simp]
theorem stage_kill (w : Wait) : w.kill.stage = w.stage
  := by
  unfold kill
  split <;> rfl

@[simp]
theorem status_kill (w : Wait) : w.kill.status? = w.status?
  := by
  unfold kill
  split <;> rfl

@[simp]
theorem written_kill (w : Wait) : w.kill.written? = w.written?
  := by
  unfold kill
  split <;> rfl

theorem doomed_kill (w : Wait) : w.kill.Doomed
  := by
  unfold kill Doomed
  cases ended : w.status? <;> simp [ended]

theorem stage_stop {w : Wait} (output : w.stage = .output) (stage : Stage) :
  (w.stop stage).stage = stage
  := by
  rw [stop, if_pos output]

theorem doomed_stop {w : Wait} (output : w.stage = .output) (stage : Stage) :
  (w.stop stage).Doomed
  := by
  rw [stop, if_pos output]
  apply w.doomed_kill

/-- What a change leaves of a wait that it does not stop. -/
structure Keeps (w w' : Wait) : Prop where
  stage : w'.stage = w.stage
  doomed : w.Doomed → w'.Doomed

theorem keeps_refl (w : Wait) : w.Keeps w := ⟨rfl, id⟩

theorem keeps_kill (w : Wait) : w.Keeps w.kill := ⟨w.stage_kill, fun _ => w.doomed_kill⟩

theorem keeps_close (w : Wait) (stdout stderr : List UInt8) : w.Keeps (w.close stdout stderr)
  := ⟨rfl, id⟩

theorem keeps_exit (w : Wait) (status : Int) : w.Keeps (w.exit status)
  := ⟨rfl, Or.imp_right fun _ => by simp [exit]⟩

theorem outcome?_eq_some_iff (w : Wait) (outcome : Outcome) :
  w.outcome? = some outcome ↔
    (∃ e, w.stage = .output ∧ w.status? = some e.status ∧
      w.written? = some (e.stdout, e.stderr) ∧ outcome = .exited e) ∨
    (w.stage = .overdue ∧ w.status?.isSome ∧ outcome = .timedOut) ∨
    (w.stage = .abandoned ∧ w.status?.isSome ∧ outcome = .cancelled)
  := by
  obtain ⟨stage, status, written, killed⟩ := w
  cases stage with
  | output =>
    simp only [reduceCtorEq, false_and, or_false, true_and]
    constructor
    · intro h
      cases status with
      | none => simp [outcome?] at h
      | some status =>
        cases written with
        | none => simp [outcome?] at h
        | some written => exact ⟨_, rfl, rfl, (Option.some.inj h).symm⟩
    · rintro ⟨e, rfl, rfl, rfl⟩
      rfl
  | overdue => cases status <;> simp [outcome?, eq_comm]
  | abandoned => cases status <;> simp [outcome?, eq_comm]

end Wait

/-- Invocations that are waited for side by side, with what has happened to the calls so
far. -/
structure Waits where
  log : List Dispatch.Event := []
  wait : Nat → Wait := fun _ => {}

namespace Waits

/-- Something that happens while programs are waited for. -/
inductive Event where
  /-- A call gets as far as its program, which is started or not. -/
  | launched (call : Call) (spawned : Except Failure Child)
  /-- A program ends. -/
  | exited (id : Nat) (status : Int)
  /-- The output of a program ends. -/
  | closed (id : Nat) (stdout stderr : List UInt8)
  /-- A program is killed from outside. -/
  | killed (id : Nat)
  /-- A wait goes on because what it waits for may have come. -/
  | resumed (id : Nat)
  /-- A wait goes on because its time is up. -/
  | expired (id : Nat)
  /-- A wait goes on because its task is cancelled. -/
  | cancelled (id : Nat)

/-- The calls after what has happened to them. -/
def dispatch (s : Waits) : Dispatch := .run s.log

/-- An invocation that has not ended. -/
def find? (s : Waits) (id : Nat) : Option Invocation := s.dispatch.running.find? id

/-- The output of an invocation is awaited for a limited time. -/
def Due (s : Waits) (id : Nat) : Prop :=
  (s.wait id).stage = .output ∧ ∃ i, s.find? id = some i ∧ i.call.timeout.isSome

instance (s : Waits) (id : Nat) : Decidable (s.Due id) :=
  decidable_of_iff ((s.wait id).stage = .output ∧ (s.find? id).any (·.call.timeout.isSome)) <|
    and_congr_right fun _ => Option.any_eq_true _ _

/-- What happens to the calls in an event.  A wait that is stopped for the second time is
not waited for any further. -/
def heard (s : Waits) : Event → List Dispatch.Event
  | .launched call spawned => [.launched call spawned]
  | .resumed id => ((s.wait id).outcome?.map (.ended id)).toList
  | .cancelled id => if (s.wait id).stage = .output then [] else [.ended id .cancelled]
  | .exited .. | .closed .. | .killed .. | .expired .. => []

/-- The waits with one of them changed. -/
def alter (s : Waits) (id : Nat) (change : Wait → Wait) : Nat → Wait :=
  fun other => if other = id then change (s.wait other) else s.wait other

/-- The waits after an event. -/
def watch (s : Waits) : Event → Nat → Wait
  | .launched call (.ok _) => fun id =>
    if id = s.dispatch.next then {}
    else if s.dispatch.running.rival? call = some id then (s.wait id).kill
    else s.wait id
  | .exited id status => s.alter id (·.exit status)
  | .closed id stdout stderr => s.alter id (·.close stdout stderr)
  | .killed id => s.alter id Wait.kill
  | .expired id => if s.Due id then s.alter id (·.stop .overdue) else s.wait
  | .cancelled id => s.alter id (·.stop .abandoned)
  | .launched _ (.error _) | .resumed _ => s.wait

/-- The invocations after an event. -/
def step (s : Waits) (event : Event) : Waits := ⟨s.log ++ s.heard event, s.watch event⟩

/-- The invocations after some events, beginning with none. -/
def run (events : List Event) : Waits := events.foldl step {}

@[simp]
theorem run_concat (past : List Event) (event : Event) :
  run (past ++ [event]) = (run past).step event
  := by
  simp [run]

/-- The time of an invocation was up while its output was awaited. -/
def TimeUp (past : List Event) (id : Nat) : Prop :=
  ∃ before later, past = before ++ .expired id :: later ∧ (run before).Due id

/-- The task of an invocation was cancelled before the invocation ended. -/
def GivenUp (past : List Event) (id : Nat) : Prop :=
  ∃ before later, past = before ++ .cancelled id :: later ∧ ((run before).find? id).isSome

theorem timeUp_concat (past : List Event) (event : Event) (id : Nat) :
  TimeUp (past ++ [event]) id ↔ TimeUp past id ∨ event = .expired id ∧ (run past).Due id
  := by
  constructor
  · rintro ⟨before, later, same, due⟩
    rcases concat_eq_cut_iff.mp same with ⟨rfl, rfl, -⟩ | ⟨rest, -, cut⟩
    · exact .inr ⟨rfl, due⟩
    · exact .inl ⟨before, rest, cut, due⟩
  · rintro (⟨before, later, rfl, due⟩ | ⟨rfl, due⟩)
    · exact ⟨before, later ++ [event], by simp, due⟩
    · exact ⟨past, [], rfl, due⟩

theorem givenUp_concat (past : List Event) (event : Event) (id : Nat) :
  GivenUp (past ++ [event]) id ↔
    GivenUp past id ∨ event = .cancelled id ∧ ((run past).find? id).isSome
  := by
  constructor
  · rintro ⟨before, later, same, runs⟩
    rcases concat_eq_cut_iff.mp same with ⟨rfl, rfl, -⟩ | ⟨rest, -, cut⟩
    · exact .inr ⟨rfl, runs⟩
    · exact .inl ⟨before, rest, cut, runs⟩
  · rintro (⟨before, later, rfl, runs⟩ | ⟨rfl, runs⟩)
    · exact ⟨before, later ++ [event], by simp, runs⟩
    · exact ⟨past, [], rfl, runs⟩

/-! ### What an event leaves of the invocations -/

theorem follows (s : Waits) : Dispatch.Follows s.log s.dispatch := Dispatch.follows_run s.log

theorem dispatch_step (s : Waits) (event : Event) :
  (s.step event).dispatch = (s.heard event).foldl Dispatch.step s.dispatch
  := List.foldl_append

/-- What is heard is nothing, or one event. -/
theorem heard_cases (s : Waits) (event : Event) :
  s.heard event = [] ∨ (∃ call spawned, event = .launched call spawned ∧
      s.heard event = [.launched call spawned]) ∨
    ∃ id outcome, s.heard event = [.ended id outcome]
  := by
  cases event with
  | launched call spawned => exact .inr (.inl ⟨call, spawned, rfl, rfl⟩)
  | resumed id =>
    cases found : (s.wait id).outcome? with
    | none => simp [heard, found]
    | some outcome => exact .inr (.inr ⟨id, outcome, by simp [heard, found]⟩)
  | cancelled id =>
    by_cases stage : (s.wait id).stage = .output
    · exact .inl (if_pos stage)
    · exact .inr (.inr ⟨id, .cancelled, if_neg stage⟩)
  | exited => exact .inl rfl
  | closed => exact .inl rfl
  | killed => exact .inl rfl
  | expired => exact .inl rfl

/-- An invocation is found after the end of another only. -/
theorem find?_ended (s : Waits) (gone : Nat) (outcome : Outcome) {id : Nat} {i : Invocation}
    (found : (s.dispatch.finish gone outcome).running.find? id = some i) :
  id ≠ gone ∧ s.find? id = some i
  := by
  rw [Dispatch.finish, Running.finish?] at found
  cases present : s.dispatch.running.find? gone with
  | none =>
    rw [present] at found
    refine ⟨?_, found⟩
    rintro rfl
    simp [present] at found
  | some j =>
    rw [present] at found
    have found : (s.dispatch.running.remove gone).find? id = some i := found
    rw [Running.find?_remove] at found
    split at found
    · simp at found
    · next other => exact ⟨other, found⟩

/-- An invocation that has not ended is an older one than the next. -/
theorem lt_next {s : Waits} {id : Nat} {i : Invocation} (found : s.find? id = some i) :
  id < s.dispatch.next
  := s.follows.below _ (s.follows.found id i found).2.1

theorem ne_next {s : Waits} {id : Nat} {i : Invocation} (found : s.find? id = some i) :
  id ≠ s.dispatch.next
  := Nat.ne_of_lt (lt_next found)

/-- An invocation that is found after an event has just been registered, or was found
before.  It is marked only when a call is started that supersedes it. -/
theorem find?_step {s : Waits} {event : Event} {id : Nat} {i : Invocation}
    (found : (s.step event).find? id = some i) :
  (id = s.dispatch.next ∧ i.superseded = false ∧
      ∃ child, event = .launched i.call (.ok child)) ∨
    ∃ old, s.find? id = some old ∧ i.call = old.call ∧ (i.superseded = true →
      old.superseded = true ∨ ∃ call child, event = .launched call (.ok child) ∧
        s.dispatch.running.rival? call = some id)
  := by
  rw [find?, dispatch_step] at found
  rcases s.heard_cases event with same | ⟨call, spawned, rfl, same⟩ | ⟨gone, outcome, same⟩
  · rw [same] at found
    exact .inr ⟨i, found, rfl, .inl⟩
  · rw [same] at found
    cases spawned with
    | error why => exact .inr ⟨i, found, rfl, .inl⟩
    | ok child =>
      have found : (s.dispatch.launch call (.ok child)).running.find? id = some i := found
      rcases s.follows.found_launch found with ⟨new, rfl⟩ | ⟨old, known, rfl⟩
      · exact .inl ⟨new, rfl, child, rfl⟩
      · refine .inr ⟨old, known, ?_, ?_⟩
        · split <;> rfl
        · split
          · next rival => exact fun _ => .inr ⟨call, child, rfl, rival⟩
          · exact .inl
  · rw [same] at found
    obtain ⟨-, known⟩ := s.find?_ended gone outcome found
    exact .inr ⟨i, known, rfl, .inl⟩

/-! ### The stages of the waits -/

theorem next_le_step (s : Waits) (event : Event) :
  s.dispatch.next ≤ (s.step event).dispatch.next
  := by
  rw [dispatch_step]
  rcases s.heard_cases event with same | ⟨call, why | child, -, same⟩ | ⟨gone, outcome, same⟩
  · rw [same]
    apply Nat.le_refl _
  · rw [same]
    apply Nat.le_succ _
  · rw [same]
    apply Nat.le_succ _
  · rw [same]
    apply Nat.le_of_eq (s.dispatch.next_finish gone outcome).symm

/-- Only a wait that has begun is stopped. -/
theorem lt_next_of_stopped {past : List Event} {id : Nat}
    (stopped : TimeUp past id ∨ GivenUp past id) :
  id < (run past).dispatch.next
  := by
  induction past using List.reverseRecOn with
  | nil => rcases stopped with ⟨before, later, same, -⟩ | ⟨before, later, same, -⟩ <;> simp at same
  | append_singleton past event ih =>
    rw [run_concat]
    apply Nat.lt_of_lt_of_le _ ((run past).next_le_step event)
    rw [timeUp_concat, givenUp_concat] at stopped
    rcases stopped with (up | ⟨-, -, i, found, -⟩) | (up | ⟨-, found⟩)
    · apply ih (.inl up)
    · apply lt_next found
    · apply ih (.inr up)
    · obtain ⟨i, found⟩ := Option.isSome_iff_exists.mp found
      apply lt_next found

/-- A wait that is not changed into something else is kept. -/
theorem keeps_alter (s : Waits) {change : Wait → Wait} (kept : ∀ w : Wait, w.Keeps (change w))
    (other id : Nat) :
  (s.wait id).Keeps (s.alter other change id)
  := by
  unfold alter
  split
  · apply kept
  · apply Wait.keeps_refl

/-- An event stops a wait or keeps it. -/
theorem wait_step {s : Waits} {id : Nat} {i : Invocation} (found : s.find? id = some i)
    (event : Event) :
  (event = .expired id ∧ s.Due id ∧ (s.step event).wait id = (s.wait id).stop .overdue) ∨
    (event = .cancelled id ∧ (s.wait id).stage = .output ∧
      (s.step event).wait id = (s.wait id).stop .abandoned) ∨
    (¬ (event = .expired id ∧ s.Due id) ∧
      ¬ (event = .cancelled id ∧ (s.wait id).stage = .output) ∧
      (s.wait id).Keeps ((s.step event).wait id))
  := by
  cases event with
  | launched call spawned =>
    refine .inr (.inr ⟨by simp, by simp, ?_⟩)
    cases spawned with
    | error why => apply Wait.keeps_refl
    | ok child =>
      simp only [step, watch, if_neg (ne_next found)]
      split
      · apply Wait.keeps_kill
      · apply Wait.keeps_refl
  | exited other status =>
    exact .inr (.inr ⟨by simp, by simp, s.keeps_alter (fun w => w.keeps_exit status) other id⟩)
  | closed other stdout stderr =>
    exact .inr (.inr ⟨by simp, by simp,
      s.keeps_alter (fun w => w.keeps_close stdout stderr) other id⟩)
  | killed other => exact .inr (.inr ⟨by simp, by simp, s.keeps_alter Wait.keeps_kill other id⟩)
  | resumed other => exact .inr (.inr ⟨by simp, by simp, Wait.keeps_refl _⟩)
  | expired other =>
    by_cases due : s.Due other
    · by_cases same : other = id
      · subst same
        exact .inl ⟨rfl, due, by simp [step, watch, alter, due]⟩
      · refine .inr (.inr ⟨by simp [same], by simp, ?_⟩)
        simpa [step, watch, alter, due, Ne.symm same] using Wait.keeps_refl _
    · refine .inr (.inr ⟨?_, by simp, by simpa [step, watch, due] using Wait.keeps_refl _⟩)
      rintro ⟨h, due'⟩
      obtain rfl := Event.expired.inj h
      apply due due'
  | cancelled other =>
    by_cases same : other = id
    · subst same
      by_cases output : (s.wait other).stage = .output
      · exact .inr (.inl ⟨rfl, output, by simp [step, watch, alter]⟩)
      · refine .inr (.inr ⟨by simp, by simp [output], ?_⟩)
        simpa [step, watch, alter, Wait.stop, output] using Wait.keeps_refl _
    · refine .inr (.inr ⟨by simp, by simp [same], ?_⟩)
      simpa [step, watch, alter, Ne.symm same] using Wait.keeps_refl _

/-- A wait that is stopped for the second time by its task has ended. -/
theorem find?_cancelled {s : Waits} {id : Nat} (stopped : (s.wait id).stage ≠ .output) :
  (s.step (.cancelled id)).find? id = none
  := by
  rw [Option.eq_none_iff_forall_ne_some]
  intro i found
  rw [find?, dispatch_step, heard, if_neg stopped] at found
  apply (s.find?_ended id .cancelled found).1 rfl

/-- The stage of a wait tells how it was stopped. -/
theorem stage_iff {past : List Event} {id : Nat} {i : Invocation}
    (found : (run past).find? id = some i) :
  (((run past).wait id).stage = .overdue ↔ TimeUp past id) ∧
    (((run past).wait id).stage = .abandoned ↔ GivenUp past id)
  := by
  induction past using List.reverseRecOn generalizing i with
  | nil => cases found
  | append_singleton past event ih =>
    rw [run_concat] at found ⊢
    rw [timeUp_concat, givenUp_concat]
    rcases find?_step found with ⟨rfl, -, child, rfl⟩ | ⟨old, known, -, -⟩
    -- The number of a new invocation has not been stopped before.
    · have fresh (stopped : TimeUp past _ ∨ GivenUp past _) : False :=
        Nat.lt_irrefl _ (lt_next_of_stopped stopped)
      have up : ¬ TimeUp past (run past).dispatch.next := fun up => fresh (.inl up)
      have given : ¬ GivenUp past (run past).dispatch.next := fun given => fresh (.inr given)
      simp [step, watch, up, given]
    · obtain ⟨overdue, abandoned⟩ := ih known
      rcases wait_step known event with
        ⟨rfl, due, after⟩ | ⟨rfl, output, after⟩ | ⟨idle, kept, keeps⟩
      · have given : ¬ GivenUp past id := by simp [← abandoned, due.1]
        simp [after, Wait.stage_stop due.1, due, given]
      · have up : ¬ TimeUp past id := by simp [← overdue, output]
        simp [after, Wait.stage_stop output, up, known]
      -- A cancellation that does not stop the wait ends the invocation, which is still found.
      · have kept : ¬ (event = .cancelled id ∧ ((run past).find? id).isSome) := by
          rintro ⟨rfl, -⟩
          have stopped : ((run past).wait id).stage ≠ .output := fun h => kept ⟨rfl, h⟩
          simp [find?_cancelled stopped] at found
        simp [keeps.stage, overdue, abandoned, idle, kept]

/-- The program of an invocation that has been superseded, or whose wait has been stopped,
has ended or been killed. -/
theorem doomed {past : List Event} {id : Nat} {i : Invocation}
    (found : (run past).find? id = some i)
    (cause : i.superseded = true ∨ ((run past).wait id).stage ≠ .output) :
  ((run past).wait id).Doomed
  := by
  induction past using List.reverseRecOn generalizing i with
  | nil => cases found
  | append_singleton past event ih =>
    rw [run_concat] at found cause ⊢
    rcases find?_step found with ⟨rfl, newest, child, rfl⟩ | ⟨old, known, -, marked⟩
    · simp [newest, step, watch] at cause
    · rcases wait_step known event with ⟨-, due, after⟩ | ⟨-, output, after⟩ | ⟨-, -, keeps⟩
      · rw [after]
        apply Wait.doomed_stop due.1 .overdue
      · rw [after]
        apply Wait.doomed_stop output .abandoned
      · rcases cause with superseded | stopped
        · rcases marked superseded with before | ⟨call, child, rfl, rival⟩
          · apply keeps.doomed (ih known (.inl before))
          · simp only [step, watch, if_neg (ne_next known), if_pos rival]
            apply Wait.doomed_kill
        · rw [keeps.stage] at stopped
          apply keeps.doomed (ih known (.inr stopped))

end Waits

/-! ### Timelines -/

/-- A course ends by its time only if it has a time. -/
theorem Course.isSome_deadline {c : Course} (up : c.ending.2 = .timedOut) :
  c.deadline?.isSome
  := by
  unfold ending at up
  split at up
  · next deadline => simp [deadline]
  · cases up

theorem Course.isSome_deadlineOf {began : Nat} {timeout : Option Binary64}
    (limited : (deadlineOf began timeout).isSome) :
  timeout.isSome
  := by
  cases timeout with
  | none => cases limited
  | some seconds => rfl

theorem Timeline.next_start (t : Timeline) (call : Call) :
  (t.start call).2.next = t.next + 1
  := by
  unfold start
  simp only
  split <;> rfl

/-- A course after a start is an old one, perhaps killed, or that of the new call. -/
theorem Timeline.mem_courses_start {t : Timeline} {call : Call} {c : Course}
    (mem : c ∈ (t.start call).2.courses) :
  (∃ old ∈ t.courses, c.id = old.id ∧ c.deadline? = old.deadline?) ∨
    (c.id = t.next ∧ (c.deadline?.isSome → call.timeout.isSome))
  := by
  have passed {c : Course} (mem : c ∈ (t.passTo t.clock).courses) :
      ∃ old ∈ t.courses, c.id = old.id ∧ c.deadline? = old.deadline? := by
    obtain ⟨old, known, rfl⟩ := List.mem_map.mp mem
    exact ⟨old, known, rfl, rfl⟩
  unfold start at mem
  simp only at mem
  split at mem
  · exact .inl (passed mem)
  · rcases List.mem_append.mp mem with mem | mem
    · split at mem
      · obtain ⟨old, known, rfl⟩ := List.mem_map.mp mem
        have killed (now : Nat) : (old.kill now).id = old.id ∧
            (old.kill now).deadline? = old.deadline? := by
          unfold Course.kill
          split <;> exact ⟨rfl, rfl⟩
        obtain ⟨first, known, id, deadline⟩ := passed known
        refine .inl ⟨first, known, ?_⟩
        split
        · rw [(killed _).1, (killed _).2]
          exact ⟨id, deadline⟩
        · exact ⟨id, deadline⟩
      · exact .inl (passed mem)
    · obtain rfl := List.mem_singleton.mp mem
      exact .inr ⟨rfl, Course.isSome_deadlineOf⟩

/-- A choice that at each element keeps the best one so far or takes this one chooses an
element. -/
theorem foldl_choice {α : Type} {choose : Option α → α → Option α}
    (chosen : ∀ best x, choose best x = best ∨ choose best x = some x) (l : List α)
    (best : Option α) :
  l.foldl choose best = best ∨ ∃ x ∈ l, l.foldl choose best = some x
  := by
  induction l generalizing best with
  | nil => exact .inl rfl
  | cons head l ih =>
    rw [List.foldl_cons]
    rcases ih (choose best head) with same | ⟨x, mem, taken⟩
    · rw [same]
      apply (chosen best head).imp_right fun taken => ⟨head, .head l, taken⟩
    · exact .inr ⟨x, .tail head mem, taken⟩

theorem Timeline.mem_of_first? {t : Timeline} {c : Course} (first : t.first? = some c) :
  c ∈ t.courses
  := by
  have choice : t.first? = none ∨ ∃ b ∈ t.courses, t.first? = some b := by
    apply foldl_choice
    intro best b
    cases best with
    | none => exact .inr rfl
    | some old =>
      dsimp only
      split
      · exact .inr rfl
      · exact .inl rfl
  rcases choice with none | ⟨b, mem, same⟩
  · simp [none] at first
  · obtain rfl := Option.some.inj (same.symm.trans first)
    apply mem

namespace Waits

theorem run_append (past events : List Event) :
  run (past ++ events) = events.foldl step (run past)
  := List.foldl_append

/-- The events by which an invocation comes to an outcome at once. -/
def lapse (id : Nat) : Outcome → List Event
  | .exited e => [.exited id e.status, .closed id e.stdout e.stderr, .resumed id]
  | .timedOut => [.expired id, .exited id (-9), .resumed id]
  | .cancelled => [.cancelled id, .exited id (-9), .resumed id]

/-- Nothing has happened to a program and its wait, but that the program may have been
killed. -/
def Quiet (w : Wait) : Prop := w.stage = .output ∧ w.status? = none ∧ w.written? = none

theorem quiet_kill {w : Wait} (h : Quiet w) : Quiet w.kill
  := by
  simpa [Quiet] using h

theorem foldl_lapse {s : Waits} {id : Nat} {i : Invocation} {outcome : Outcome}
    (found : s.find? id = some i) (quiet : Quiet (s.wait id))
    (timed : outcome = .timedOut → i.call.timeout.isSome) :
  ((lapse id outcome).foldl step s).log = s.log ++ [.ended id outcome] ∧
    ∀ other, other ≠ id → ((lapse id outcome).foldl step s).wait other = s.wait other
  := by
  obtain ⟨output, status, written⟩ := quiet
  cases outcome with
  | exited e =>
    constructor
    · simp [lapse, step, heard, watch, alter, Wait.exit, Wait.close, Wait.outcome?, output, status,
        written]
    · intro other distinct
      simp [lapse, step, watch, alter, distinct]
  | timedOut =>
    have due : s.Due id := ⟨output, i, found, timed rfl⟩
    constructor
    · simp [lapse, step, heard, watch, alter, Wait.exit, Wait.stop, Wait.outcome?, output, status,
        due]
    · intro other distinct
      simp [lapse, step, watch, alter, distinct, due]
  | cancelled =>
    constructor
    · simp [lapse, step, heard, watch, alter, Wait.exit, Wait.stop, Wait.outcome?, output, status]
    · intro other distinct
      simp [lapse, step, watch, alter, distinct]

/-- How waits stand for a timeline. -/
structure Mirrors (s : Waits) (t : Timeline) : Prop where
  dispatch : s.dispatch = t.dispatch
  quiet : ∀ id i, s.find? id = some i → Quiet (s.wait id)
  old : ∀ c ∈ t.courses, c.id < t.next
  timed : ∀ c ∈ t.courses, c.deadline?.isSome →
    ∀ i, s.find? c.id = some i → i.call.timeout.isSome

namespace Mirrors

variable {s : Waits} {t : Timeline}

theorem passTo (h : s.Mirrors t) (moment : Nat) : s.Mirrors (t.passTo moment) where
  dispatch := h.dispatch
  quiet := h.quiet
  old c mem := by
    obtain ⟨c', mem', rfl⟩ := List.mem_map.mp mem
    apply h.old c' mem'
  timed c mem := by
    obtain ⟨c', mem', rfl⟩ := List.mem_map.mp mem
    apply h.timed c' mem'

/-- The end of an invocation comes about by events. -/
theorem finish (h : s.Mirrors t) (id : Nat) (outcome : Outcome)
    (timed : outcome = .timedOut → ∀ i, s.find? id = some i → i.call.timeout.isSome) :
  ∃ events : List Event, (events.foldl step s).Mirrors (t.finish id outcome)
  := by
  cases found : s.find? id with
  | none =>
    have same : t.finish id outcome = t := by
      rw [Waits.find?, h.dispatch] at found
      have found : t.running.find? id = none := found
      simp [Timeline.finish, Running.finish?, found]
    rw [same]
    exact ⟨[], h⟩
  | some i =>
    obtain ⟨log, others⟩ := foldl_lapse found (h.quiet id i found) fun up => timed up i found
    have dispatch : ((lapse id outcome).foldl step s).dispatch = s.dispatch.finish id outcome := by
      rw [Waits.dispatch, log, Dispatch.run_concat]
      rfl
    have known {other : Nat} {j : Invocation}
        (found : ((lapse id outcome).foldl step s).find? other = some j) :
        other ≠ id ∧ s.find? other = some j := by
      rw [Waits.find?, dispatch] at found
      apply s.find?_ended id outcome found
    -- What remains of the timeline was there before.
    have kept : ∀ c ∈ (t.finish id outcome).courses, c ∈ t.courses := by
      intro c mem
      unfold Timeline.finish at mem
      split at mem
      · apply mem
      · apply List.mem_of_mem_filter mem
    have next : (t.finish id outcome).next = t.next := by
      unfold Timeline.finish
      split <;> rfl
    refine ⟨lapse id outcome, ?_, ?_, ?_, ?_⟩
    · rw [dispatch, h.dispatch, Timeline.dispatch_finish]
    · intro other j found
      obtain ⟨distinct, found⟩ := known found
      rw [others other distinct]
      apply h.quiet other j found
    · intro c mem
      rw [next]
      apply h.old c (kept c mem)
    · intro c mem limited j found
      apply h.timed c (kept c mem) limited j (known found).2

/-- The start of a call is one event. -/
theorem start (h : s.Mirrors t) (call : Call) :
  ∃ event, (s.step event).Mirrors (t.start call).2
  := by
  refine ⟨.launched call (call.spawn t.programs (t.passTo t.clock).tree t.environment),
    ?_, ?_, ?_, ?_⟩
  · rw [dispatch_step, Timeline.dispatch_start, ← h.dispatch]
    rfl
  · intro id i found
    rcases find?_step found with ⟨rfl, -, child, launched⟩ | ⟨old, known, -, -⟩
    · rw [launched]
      simp [step, watch, Quiet]
    · have quiet := h.quiet id old known
      cases call.spawn t.programs (t.passTo t.clock).tree t.environment with
      | error why => exact quiet
      | ok child =>
        simp only [step, watch, if_neg (ne_next known)]
        split
        · apply quiet_kill quiet
        · apply quiet
  · intro c mem
    rcases Timeline.mem_courses_start mem with ⟨old, known, id, -⟩ | ⟨new, -⟩
    · rw [id, Timeline.next_start]
      apply Nat.lt_succ_of_lt (h.old old known)
    · rw [new, Timeline.next_start]
      apply Nat.lt_succ_self _
  · intro c mem limited i found
    have next : s.dispatch.next = t.next := by
      rw [h.dispatch]
      rfl
    rcases Timeline.mem_courses_start mem with ⟨old, known, id, deadline⟩ | ⟨new, timed⟩
    · have distinct : c.id ≠ s.dispatch.next := by
        rw [id, next]
        apply Nat.ne_of_lt (h.old old known)
      rcases find?_step found with ⟨same, -⟩ | ⟨j, found, call, -⟩
      · apply (distinct same).elim
      · rw [id] at found
        rw [call]
        apply h.timed old known (deadline ▸ limited) j found
    · rcases find?_step found with ⟨-, -, child, launched⟩ | ⟨j, found, -, -⟩
      · obtain ⟨rfl, -⟩ := Event.launched.inj launched
        apply timed limited
      · rw [new, ← next] at found
        apply (ne_next found rfl).elim

end Mirrors

end Waits

/-- The calls of a timeline are carried out by events of those who wait. -/
theorem Timeline.Reached.exists_waits {t : Timeline} (h : t.Reached) :
  ∃ past, (Waits.run past).Mirrors t
  := by
  have more {t' : Timeline} {past : List Waits.Event}
      (h : ∃ events : List Waits.Event, (events.foldl Waits.step (Waits.run past)).Mirrors t') :
      ∃ past, (Waits.run past).Mirrors t' := by
    obtain ⟨events, h⟩ := h
    exact ⟨past ++ events, by rwa [Waits.run_append]⟩
  induction h with
  | begin tree environment =>
    refine ⟨[], rfl, ?_, by simp, by simp⟩
    intro id i found
    cases found
  | changed tree environment clock _ ih =>
    obtain ⟨past, h⟩ := ih
    exact ⟨past, h.dispatch, h.quiet, h.old, h.timed⟩
  | started call _ ih =>
    obtain ⟨past, h⟩ := ih
    obtain ⟨event, h⟩ := h.start call
    apply more ⟨[event], h⟩
  | advanced _ advance ih =>
    obtain ⟨past, h⟩ := ih
    obtain ⟨c, first, rfl⟩ := Option.map_eq_some_iff.mp advance
    have mem := Timeline.mem_of_first? first
    apply more ((h.passTo c.ending.1).finish c.id c.ending.2 _)
    intro up i found
    apply h.timed c mem (Course.isSome_deadline up) i found
  | @cancelled t id _ ih =>
    obtain ⟨past, h⟩ := ih
    apply more ((h.passTo t.clock).finish id .cancelled (by simp))

end TypeCoverage
