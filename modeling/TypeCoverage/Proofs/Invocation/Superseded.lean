import TypeCoverage.Proofs.Invocation.Waits

/-!
# Invocations that have been superseded

An invocation that has been superseded answers nothing once its program and its output have
ended.  But whoever waits for a program whose time is up does not ask whether a newer
invocation has taken its key over.  So a superseded invocation still reports a time-out if
its time was up before it ended: because it was superseded while the end of its killed
program was awaited, or because a descendant of the program held the output until then.
`supersession` says which of the two happens, whatever happens in whatever order, and that
only the cancellation of its task is a third way out.
-/

namespace TypeCoverage

namespace Waits

/-! ### Ends -/

/-- The reply to an invocation comes from an event that ends it. -/
theorem heard_of_reply {s : Waits} {event : Event} {id : Nat} {call : Call} {reply : Reply}
    (mem : (id, call) ∈ Dispatch.registrations s.log)
    (h : (s.step event).dispatch.replies = s.dispatch.replies ++ [(id, reply)]) :
  ∃ i outcome, s.find? id = some i ∧ s.heard event = [.ended id outcome] ∧
    reply = i.reply outcome
  := by
  rw [dispatch_step] at h
  rcases s.heard_cases event with same | ⟨other, why | child, -, same⟩ | ⟨gone, outcome, same⟩
  · simp [same] at h
  · have h : s.dispatch.replies ++ [(s.dispatch.next, .failed why)] =
        s.dispatch.replies ++ [(id, reply)] := by rw [same] at h; exact h
    obtain ⟨rfl, -⟩ : s.dispatch.next = id ∧ Reply.failed why = reply := by simpa using h
    apply (s.follows.fresh call mem).elim
  · have h : s.dispatch.replies = s.dispatch.replies ++ [(id, reply)] := by
      rw [same] at h; exact h
    simp at h
  · have h : (s.dispatch.finish gone outcome).replies = s.dispatch.replies ++ [(id, reply)] := by
      rw [same] at h; exact h
    cases found : s.dispatch.running.find? gone with
    | none => simp [Dispatch.finish, Running.finish?, found] at h
    | some i =>
      obtain ⟨rfl, rfl⟩ : gone = id ∧ i.reply outcome = reply := by
        simpa [Dispatch.finish, Running.finish?, found] using h
      exact ⟨i, outcome, found, same, rfl⟩

/-- The events that end an invocation. -/
theorem heard_eq_ended_iff (s : Waits) (event : Event) (id : Nat) (outcome : Outcome) :
  s.heard event = [.ended id outcome] ↔
    (event = .resumed id ∧ (s.wait id).outcome? = some outcome) ∨
      (event = .cancelled id ∧ (s.wait id).stage ≠ .output ∧ outcome = .cancelled)
  := by
  cases event with
  | resumed other =>
    have ends : s.heard (.resumed other) = [.ended id outcome] ↔
        other = id ∧ (s.wait other).outcome? = some outcome := by
      cases found : (s.wait other).outcome? <;> simp [heard, found]
    simp only [ends, Event.resumed.injEq, reduceCtorEq, false_and, or_false]
    apply and_congr_right
    rintro rfl
    rfl
  | cancelled other =>
    have ends : s.heard (.cancelled other) = [.ended id outcome] ↔
        (s.wait other).stage ≠ .output ∧ other = id ∧ .cancelled = outcome := by
      by_cases output : (s.wait other).stage = .output <;> simp [heard, output]
    rw [ends]
    grind
  | launched => simp [heard]
  | exited => simp [heard]
  | closed => simp [heard]
  | killed => simp [heard]
  | expired => simp [heard]

/-- The outcome of an invocation tells how its wait was stopped. -/
theorem outcome_cases {past : List Event} {event : Event} {id : Nat} {i : Invocation}
    {outcome : Outcome} (found : (run past).find? id = some i)
    (heard : (run past).heard event = [.ended id outcome]) :
  ((∃ e, outcome = .exited e) ∧ ¬ TimeUp past id ∧ ¬ GivenUp (past ++ [event]) id) ∨
    (outcome = .timedOut ∧ TimeUp past id ∧ ¬ GivenUp (past ++ [event]) id) ∨
    (outcome = .cancelled ∧ GivenUp (past ++ [event]) id)
  := by
  obtain ⟨overdue, abandoned⟩ := stage_iff found
  rw [givenUp_concat, ← overdue, ← abandoned]
  rcases (heard_eq_ended_iff ..).mp heard with ⟨rfl, ends⟩ | ⟨rfl, -, rfl⟩
  · rcases (Wait.outcome?_eq_some_iff ..).mp ends with
      ⟨e, stage, -, -, rfl⟩ | ⟨stage, -, rfl⟩ | ⟨stage, -, rfl⟩
    · simp [stage]
    · simp [stage]
    · simp [stage]
  · simp [found]

/-- A wait that goes on with an outcome answers the call. -/
theorem replies_resumed {s : Waits} {id : Nat} {i : Invocation} {outcome : Outcome}
    (found : s.find? id = some i) (ends : (s.wait id).outcome? = some outcome) :
  (s.step (.resumed id)).dispatch.replies = s.dispatch.replies ++ [(id, i.reply outcome)]
  := by
  have heard : s.heard (.resumed id) = [.ended id outcome] := by simp [heard, ends]
  have found : s.dispatch.running.find? id = some i := found
  rw [dispatch_step, heard]
  simp [Dispatch.step, Dispatch.finish, Running.finish?, found]

/-! ### The way out -/

/-- How the call of an invocation ends that has been superseded. -/
structure Supersession (past : List Event) (id : Nat) (call : Call) : Prop where
  /-- Its program has ended or been killed. -/
  doomed : ((run past).wait id).Doomed
  /-- Once its program and its output have ended, the call answers nothing, unless its wait
  was stopped before. -/
  complete : ∀ e : Exit, ((run past).wait id).status? = some e.status →
    ((run past).wait id).written? = some (e.stdout, e.stderr) →
    ¬ TimeUp past id → ¬ GivenUp past id →
    (run (past ++ [.resumed id])).dispatch.replies =
      (run past).dispatch.replies ++ [(id, .replaced)]
  /-- If its time was up, then once its program has ended the call reports a time-out, unless
  its task was cancelled. -/
  overdue : ((run past).wait id).status?.isSome → TimeUp past id → ¬ GivenUp past id →
    (run (past ++ [.resumed id])).dispatch.replies = (run past).dispatch.replies ++
      [(id, .failed (.fault (.timeout call.command call.reportedTimeout)))]
  /-- There is no other way out than these two and the cancellation of its task. -/
  ends : ∀ event reply,
    (run (past ++ [event])).dispatch.replies = (run past).dispatch.replies ++ [(id, reply)] →
    (reply = .replaced ↔ ¬ TimeUp past id ∧ ¬ GivenUp (past ++ [event]) id) ∧
    (reply = .failed (.fault (.timeout call.command call.reportedTimeout)) ↔
      TimeUp past id ∧ ¬ GivenUp (past ++ [event]) id) ∧
    (reply = .failed .cancelled ↔ GivenUp (past ++ [event]) id)

/-- An invocation that has been superseded answers nothing, unless its time was up before its
call ended or its task was cancelled. -/
theorem supersession (past : List Event) (id : Nat) (call : Call)
    (mem : (id, call) ∈ Dispatch.registrations (run past).log)
    (running : ¬ Dispatch.Ended (run past).log id)
    (overtaken : Dispatch.Overtaken (run past).log id call) :
  Supersession past id call
  := by
  obtain ⟨i, found, rfl, mark⟩ := Dispatch.exists_running mem running
  have found : (run past).find? id = some i := found
  have mark : i.superseded = true := mark.mpr overtaken
  obtain ⟨timeUp, givenUp⟩ := stage_iff found
  constructor
  · apply Waits.doomed found (.inl mark)
  · intro e ended written up given
    have output : ((run past).wait id).stage = .output := by
      cases stage : ((run past).wait id).stage with
      | output => rfl
      | overdue => exact (up (timeUp.mp stage)).elim
      | abandoned => exact (given (givenUp.mp stage)).elim
    have ends : ((run past).wait id).outcome? = some (.exited e) :=
      (Wait.outcome?_eq_some_iff ..).mpr (.inl ⟨e, output, ended, written, rfl⟩)
    rw [run_concat, replies_resumed found ends]
    simp [Invocation.reply, Call.reply, mark]
  · intro ended up given
    have ends : ((run past).wait id).outcome? = some .timedOut :=
      (Wait.outcome?_eq_some_iff ..).mpr (.inr (.inl ⟨timeUp.mpr up, ended, rfl⟩))
    rw [run_concat, replies_resumed found ends]
    rfl
  · intro event reply h
    rw [run_concat] at h
    obtain ⟨j, outcome, found', heard, rfl⟩ := heard_of_reply mem h
    obtain rfl := Option.some.inj (found.symm.trans found')
    rcases outcome_cases found heard with
      ⟨⟨e, rfl⟩, up, given⟩ | ⟨rfl, up, given⟩ | ⟨rfl, given⟩
    · simp [Invocation.reply, Call.reply, mark, up, given]
    · simp [Invocation.reply, Call.reply, up, given]
    · simp [Invocation.reply, Call.reply, given]

/-- A call that is made again and again for one file. -/
def check : Call := { executable := "flow", args := ["check"], uniqueKey := some "a.js" }

/-- The call is made twice, and the time of the first is up before its output ends. -/
def rivals : List Event :=
  [.launched check (.ok ⟨⟨0, [], []⟩, 0, [], []⟩), .launched check (.ok ⟨⟨0, [], []⟩, 0, [], []⟩),
    .exited 0 (-9), .expired 0]

theorem running_rivals : ¬ Dispatch.Ended (run rivals).log 0
  := by
  rintro ⟨before, outcome, after, same, -⟩
  have log : (run rivals).log = [.launched check (.ok ⟨⟨0, [], []⟩, 0, [], []⟩),
    .launched check (.ok ⟨⟨0, [], []⟩, 0, [], []⟩)] := rfl
  have mem : .ended 0 outcome ∈ (run rivals).log := by simp [same]
  simp [log] at mem

theorem supersession_rivals :
  (0, check) ∈ Dispatch.registrations (run rivals).log ∧ ¬ Dispatch.Ended (run rivals).log 0 ∧
    Dispatch.Overtaken (run rivals).log 0 check ∧ Supersession rivals 0 check
  := by
  have mem : (0, check) ∈ Dispatch.registrations (run rivals).log := .head _
  have overtaken : Dispatch.Overtaken (run rivals).log 0 check := ⟨"a.js", rfl, [], 1, [], rfl⟩
  exact ⟨mem, running_rivals, overtaken, supersession rivals 0 check mem running_rivals overtaken⟩

/-- Not every invocation that has been superseded answers nothing or is cancelled. -/
theorem overtaken_times_out :
  ¬ ∀ past id call event reply, (id, call) ∈ Dispatch.registrations (run past).log →
    ¬ Dispatch.Ended (run past).log id → Dispatch.Overtaken (run past).log id call →
    (run (past ++ [event])).dispatch.replies = (run past).dispatch.replies ++ [(id, reply)] →
    reply = .replaced ∨ reply = .failed .cancelled
  := by
  intro h
  have answers := h rivals 0 check (.resumed 0)
    (.failed (.fault (.timeout ["flow", "check"] defaultTimeout))) (.head _) running_rivals
    ⟨"a.js", rfl, [], 1, [], rfl⟩ rfl
  rcases answers with nothing | cancelled
  · cases nothing
  · cases cancelled

end Waits

end TypeCoverage
