import TypeCoverage.Proofs.Invocation.Dispatch

/-!
# Succession of invocations

Of the invocations with one key, the newest holds the key until it ends, and the ones
before it have been superseded: they answer nothing when their programs end.  `Succession`
says this of the table after some events, and what one further event leaves as it is;
`succession` proves it for all events in all orders.

A timeline makes such events only (`Timeline.Reached.exists_events`), so that all this
holds of timelines.
-/

namespace TypeCoverage

/-! ### Replies -/

theorem Call.verdict_ne_replaced (c : Call) (e : Exit) :
  c.verdict e ≠ .replaced
  := by
  unfold Call.verdict
  simp only
  split <;> simp

/-- What is answered by an invocation of a call that has been superseded, or not, when it
ends. -/
def Call.Answers (c : Call) (superseded : Prop) (outcome : Outcome) (reply : Reply) : Prop :=
  (superseded → (∀ text, reply ≠ .output text) ∧ ∀ e, outcome = .exited e → reply = .replaced) ∧
  (¬ superseded → reply ≠ .replaced ∧ ∀ e, outcome = .exited e → reply = c.verdict e)

theorem Invocation.answers_reply (i : Invocation) (outcome : Outcome) :
  i.call.Answers (i.superseded = true) outcome (i.reply outcome)
  := by
  constructor
  · intro superseded
    cases outcome <;> simp [reply, Call.reply, superseded]
  · intro newest
    cases outcome with
    | exited e => simp [reply, Call.reply, newest, i.call.verdict_ne_replaced e]
    | timedOut => simp [reply, Call.reply]
    | cancelled => simp [reply, Call.reply]

namespace Dispatch

/-! ### Marks -/

/-- In a list without repetitions, an element is followed by another one exactly if it is
not the last. -/
theorem exists_later_iff {l : List Nat} (nodup : l.Nodup) {id : Nat} (mem : id ∈ l) :
  (∃ before later after, l = before ++ id :: later :: after) ↔ l.getLast? ≠ some id
  := by
  constructor
  · rintro ⟨before, later, after, rfl⟩ last
    have last : (later :: after).getLast? = some id := by simpa using last
    obtain ⟨-, tail, -⟩ := List.nodup_append.mp nodup
    apply (List.nodup_cons.mp tail).1 (List.mem_of_getLast? last)
  · intro not_last
    obtain ⟨before, after, rfl⟩ := List.append_of_mem mem
    cases after with
    | nil => simp at not_last
    | cons later after => exact ⟨before, later, after, rfl⟩

theorem increasing_registeredUnder (key : String) (past : List Event) :
  (registeredUnder key past).Pairwise (· < ·)
  := List.pairwise_map.mpr ((follows_run past).ordered.sublist List.filter_sublist)

theorem nodup_registeredUnder (key : String) (past : List Event) :
  (registeredUnder key past).Nodup
  := (increasing_registeredUnder key past).imp Nat.ne_of_lt

theorem overtaken_iff {past : List Event} {id : Nat} {call : Call}
    (mem : (id, call) ∈ registrations past) :
  Overtaken past id call ↔ ∃ key, call.uniqueKey = some key ∧ ¬ Latest past key id
  := by
  apply exists_congr
  intro key
  apply and_congr_right
  intro own
  apply exists_later_iff (nodup_registeredUnder key past)
  apply mem_registeredUnder.mpr ⟨call, mem, own⟩

/-- An invocation that runs is the one that was registered, and is marked exactly if it
has been overtaken. -/
theorem exists_running {past : List Event} {id : Nat} {call : Call}
    (mem : (id, call) ∈ registrations past) (running : ¬ Ended past id) :
  ∃ i, (run past).running.find? id = some i ∧ i.call = call ∧
    (i.superseded = true ↔ Overtaken past id call)
  := by
  have h := follows_run past
  obtain ⟨i, found⟩ := h.running _ mem running
  have mark := h.mark id i found
  obtain ⟨-, mem', -⟩ := h.found id i found
  obtain rfl := h.call_unique mem' mem
  refine ⟨i, found, rfl, ?_⟩
  rw [mark, overtaken_iff mem]

/-- A running invocation that ends is answered. -/
theorem run_ended {past : List Event} {id : Nat} {i : Invocation}
    (found : (run past).running.find? id = some i) (outcome : Outcome) :
  run (past ++ [.ended id outcome]) =
    { run past with
      running := (run past).running.remove id
      replies := (run past).replies ++ [(id, i.reply outcome)] }
  := by
  rw [run_concat, step, finish, Running.finish?, found]
  rfl

/-- What an invocation that runs answers when it ends. -/
theorem exists_reply {past : List Event} {id : Nat} {call : Call}
    (mem : (id, call) ∈ registrations past) (running : ¬ Ended past id) (outcome : Outcome) :
  ∃ reply,
    (run (past ++ [.ended id outcome])).replies = (run past).replies ++ [(id, reply)] ∧
    call.Answers (Overtaken past id call) outcome reply
  := by
  obtain ⟨i, found, rfl, mark⟩ := exists_running mem running
  use i.reply outcome
  rw [run_ended found, ← mark]
  exact ⟨rfl, i.answers_reply outcome⟩

/-! ### What an event leaves as it is -/

/-- A program that is started changes only the invocation that it supersedes. -/
theorem find?_launched {past : List Event} {call : Call} {child : Child} {id : Nat}
    {i : Invocation} (found : (run past).running.find? id = some i)
    (other : ∀ key, call.uniqueKey = some key → i.call.uniqueKey ≠ some key) :
  (run (past ++ [.launched call (.ok child)])).running.find? id = some i
  := by
  have h := follows_run past
  obtain ⟨-, mem, -⟩ := h.found id i found
  have old : id ≠ (run past).next := Nat.ne_of_lt (h.below _ mem)
  have spared : (run past).running.rival? call ≠ some id := by
    rw [ne_eq, h.rival_iff]
    rintro ⟨key, own, latest, -⟩
    obtain ⟨call', mem', own'⟩ := mem_registeredUnder.mp latest.mem
    obtain rfl := h.call_unique mem mem'
    apply other key own own'
  rw [run_concat, step, launch, Running.find?_register _ _ _ h.find_next, if_neg old, found]
  simp [spared]

theorem newest?_launched {past : List Event} {call : Call} (child : Child) {key : String}
    (other : call.uniqueKey ≠ some key) :
  (run (past ++ [.launched call (.ok child)])).running.newest? key =
    (run past).running.newest? key
  := by
  rw [run_concat, step, launch, Running.newest?_register, if_neg other]

/-- The end of an invocation changes nothing for the others. -/
theorem find?_ended (past : List Event) (outcome : Outcome) {gone id : Nat} (other : id ≠ gone) :
  (run (past ++ [.ended gone outcome])).running.find? id = (run past).running.find? id
  := by
  cases found : (run past).running.find? gone with
  | none =>
    rw [run_concat, step, finish, Running.finish?, found]
    rfl
  | some i =>
    rw [run_ended found]
    simp only [Running.find?_remove, if_neg other]

theorem newest?_ended (past : List Event) (outcome : Outcome) {gone : Nat} {key : String}
    (other : (run past).running.newest? key ≠ some gone) :
  (run (past ++ [.ended gone outcome])).running.newest? key = (run past).running.newest? key
  := by
  cases found : (run past).running.find? gone with
  | none =>
    rw [run_concat, step, finish, Running.finish?, found]
    rfl
  | some i =>
    rw [run_ended found]
    simp only [Running.newest?_remove (follows_run past).tidy, if_neg other]

/-- When everything that was registered has ended, the table is empty. -/
theorem running_eq_empty {past : List Event}
    (ended : ∀ p ∈ registrations past, Ended past p.1) :
  (run past).running = .empty
  := by
  have h := follows_run past
  apply Running.eq_empty
  · intro id
    rw [Option.eq_none_iff_forall_ne_some]
    intro i found
    obtain ⟨-, mem, running⟩ := h.found id i found
    apply running (ended _ mem)
  · intro key
    rw [Option.eq_none_iff_forall_ne_some]
    intro id newest
    obtain ⟨latest, running⟩ := (h.newest key id).mp newest
    obtain ⟨call, mem, -⟩ := mem_registeredUnder.mp latest.mem
    apply running (ended _ mem)

/-! ### The table of all runs -/

/-- The order in which the invocations with one key follow one another, after some
events. -/
structure Succession (past : List Event) : Prop where
  /-- The table names the invocation registered most recently with a key, while it runs. -/
  newest : ∀ key id,
    (run past).running.newest? key = some id ↔ Latest past key id ∧ ¬ Ended past id
  /-- While an invocation runs, it is marked exactly if the next one with its key has been
  registered. -/
  marked : ∀ id call, (id, call) ∈ registrations past → ¬ Ended past id →
    ∃ i, (run past).running.find? id = some i ∧ i.call = call ∧
      (i.superseded = true ↔ Overtaken past id call)
  /-- If it ends now, it is answered: never with its output if it has been overtaken, and
  never with nothing if it has not. -/
  answered : ∀ id call, (id, call) ∈ registrations past → ¬ Ended past id → ∀ outcome,
    ∃ reply, (run (past ++ [.ended id outcome])).replies = (run past).replies ++ [(id, reply)] ∧
      call.Answers (Overtaken past id call) outcome reply
  /-- The newest invocation with a key has not been overtaken. -/
  latest : ∀ key id call, (id, call) ∈ registrations past → call.uniqueKey = some key →
    (Latest past key id ↔ ¬ Overtaken past id call)
  /-- The end of an invocation changes nothing for the others; above all it removes no key
  that a newer one has taken over. -/
  ended : ∀ gone outcome,
    (∀ id, id ≠ gone → (run (past ++ [.ended gone outcome])).running.find? id =
      (run past).running.find? id) ∧
    (∀ key, (run past).running.newest? key ≠ some gone →
      (run (past ++ [.ended gone outcome])).running.newest? key =
        (run past).running.newest? key)
  /-- The start of a program changes nothing for other keys and for calls without one. -/
  launched : ∀ call child,
    (∀ id i, (run past).running.find? id = some i →
      (∀ key, call.uniqueKey = some key → i.call.uniqueKey ≠ some key) →
      (run (past ++ [.launched call (.ok child)])).running.find? id = some i) ∧
    (∀ key, call.uniqueKey ≠ some key →
      (run (past ++ [.launched call (.ok child)])).running.newest? key =
        (run past).running.newest? key)
  /-- A call whose program cannot be started changes nothing for the others. -/
  refused : ∀ call why,
    (run (past ++ [.launched call (.error why)])).running = (run past).running ∧
    (run (past ++ [.launched call (.error why)])).replies =
      (run past).replies ++ [((run past).next, .failed why)]
  /-- When everything has ended, nothing is left. -/
  empty : (∀ p ∈ registrations past, Ended past p.1) → (run past).running = .empty

/-- Invocations with one key succeed one another, whatever happens in whatever order. -/
theorem succession (past : List Event) :
  Succession past
  where
  newest := (follows_run past).newest
  marked _ _ mem running := exists_running mem running
  answered _ _ mem running outcome := exists_reply mem running outcome
  latest key id call mem own := by
    rw [overtaken_iff mem]
    constructor
    · rintro latest ⟨key', own', not_latest⟩
      obtain rfl := Option.some.inj (own.symm.trans own')
      apply not_latest latest
    · intro newest
      by_contra not_latest
      apply newest ⟨key, own, not_latest⟩
  ended gone outcome :=
    ⟨fun _ other => find?_ended past outcome other, fun _ other => newest?_ended past outcome other⟩
  launched _ child :=
    ⟨fun _ _ found other => find?_launched found other, fun _ other => newest?_launched child other⟩
  refused call why := by
    rw [run_concat]
    exact ⟨rfl, rfl⟩
  empty := running_eq_empty

/-- Of two calls with one key, the first answers nothing when its program ends. -/
example (child : Child) (exit : Exit) :
  (run [.launched { executable := "flow", args := [], uniqueKey := some "a" } (.ok child),
    .launched { executable := "flow", args := [], uniqueKey := some "a" } (.ok child),
    .ended 0 (.exited exit)]).replies = [(0, .replaced)]
  := rfl

end Dispatch

/-! ### Timelines -/

namespace Timeline

/-- What remains of a timeline without time. -/
def dispatch (s : Timeline) : Dispatch := ⟨s.running, s.replies, s.next⟩

theorem dispatch_start (s : Timeline) (call : Call) :
  (s.start call).2.dispatch =
    s.dispatch.launch call (call.spawn s.programs (s.passTo s.clock).tree s.environment)
  := by
  rw [start]
  simp only
  split
  · next why refused =>
    have refused : call.spawn s.programs (s.passTo s.clock).tree s.environment = .error why :=
      refused
    rw [refused]
    rfl
  · next child started =>
    have started : call.spawn s.programs (s.passTo s.clock).tree s.environment = .ok child :=
      started
    rw [started]
    rfl

theorem dispatch_finish (s : Timeline) (id : Nat) (outcome : Outcome) :
  (s.finish id outcome).dispatch = s.dispatch.finish id outcome
  := by
  rw [finish, Dispatch.finish]
  have same : s.dispatch.running.finish? id outcome = s.running.finish? id outcome := rfl
  cases ended : s.running.finish? id outcome with
  | none => rw [same, ended]
  | some answer =>
    rw [same, ended]
    rfl

theorem dispatch_advance {s s' : Timeline} (h : s.advance? = some s') :
  ∃ id outcome, s'.dispatch = s.dispatch.finish id outcome
  := by
  obtain ⟨c, -, rfl⟩ := Option.map_eq_some_iff.mp h
  exact ⟨_, _, dispatch_finish ..⟩

/-- The timelines that arise from one in which nothing has been called. -/
inductive Reached : Timeline → Prop where
  | begin (programs : Programs) (tree : FileTree) (environment : List (String × String)) :
      Reached { programs, tree, environment }
  | changed {s : Timeline} (tree : FileTree) (environment : List (String × String)) (clock : Nat) :
      Reached s → Reached { s with tree, environment, clock }
  | started {s : Timeline} (call : Call) : Reached s → Reached (s.start call).2
  | advanced {s s' : Timeline} : Reached s → s.advance? = some s' → Reached s'
  | cancelled {s : Timeline} (id : Nat) : Reached s → Reached (s.cancel id).2

/-- The calls of a timeline are carried out by events. -/
theorem Reached.exists_events {s : Timeline} (h : Reached s) :
  ∃ past, s.dispatch = Dispatch.run past
  := by
  have more {d : Dispatch} (h : ∃ past, d = Dispatch.run past) (event : Dispatch.Event) :
      ∃ past, d.step event = Dispatch.run past := by
    obtain ⟨past, rfl⟩ := h
    use past ++ [event]
    rw [Dispatch.run_concat]
  induction h with
  | begin programs tree environment => exact ⟨[], rfl⟩
  | changed tree environment clock _ ih => exact ih
  | started call _ ih =>
    rw [dispatch_start]
    apply more ih (.launched call _)
  | advanced _ step ih =>
    obtain ⟨id, outcome, same⟩ := dispatch_advance step
    rw [same]
    apply more ih (.ended id outcome)
  | @cancelled s id _ ih =>
    change ∃ past, ((s.passTo s.clock).finish id .cancelled).dispatch = _
    rw [dispatch_finish]
    apply more ih (.ended id .cancelled)

end Timeline

end TypeCoverage
