import TypeCoverage.Proofs.Servers.Stopping
import TypeCoverage.Servers.Session

/-!
# Sessions with stop tasks in the background

A session (`Servers.Session`) lets its stop tasks begin as soon as they are scheduled and
keeps only those of them, and of the tasks that wait, that have not ended.  So it takes
some of the ways that stop tasks can go: after any operations it is what events leave
(`Session.exists_events`).
-/

namespace TypeCoverage.Servers

/-- The calls that a stop task has made. -/
def Course.calls (c : Course) : List Call :=
  c.deeds.filterMap fun
    | .asked _ _ => none
    | .called call => some call

/-- The call of the task has not been answered. -/
def Course.isCalling (c : Course) : Bool := c.isRunning && !c.deeds.isEmpty

/-- A waiting task with the tasks among the given ones that it waits for. -/
def Waiter.among (pending : List Nat) (w : Waiter) : Nat × List Nat :=
  (w.task, w.awaited.filter pending.contains)

namespace Session

/-- What can be done to a session. -/
inductive Operation where
  | add (root : Path)
  | stopAll (resolve : Path → Option String) (timeout : Option Binary64) (waiter : Option Nat)
  | await (task : Nat)
  | respond (index : Nat) (reply : Reply)
  | cancel (id : Nat)

/-- The session after an operation.  A reply to no call is lost. -/
def perform (s : Session) : Operation → Session
  | .add root => { s with servers := s.servers.add root }
  | .stopAll resolve timeout waiter => (s.stopAll resolve timeout waiter).1
  | .await task => s.await task
  | .respond index _ => (s.respond? index).getD s
  | .cancel id => s.cancel id

/-- A session is what some events have left. -/
structure Follows (s : Session) (t : Stops) : Prop where
  accounts : t.Accounts
  servers : s.servers = t.servers
  distinct : s.waiting.Nodup
  waiting : ∀ id ∈ s.waiting, ∃ c ∈ t.courses, c.task.id = id ∧ c.isCalling = true
  calls : s.calls.Perm (t.courses.flatMap Course.calls)
  awaited : ∀ w ∈ t.waiters, w.awaited.Nodup
  waiters : s.waiters = (t.waiters.filter (·.result?.isNone)).map (·.among t.servers.pending)
  ended : s.ended.Perm ((t.waiters.filter (·.result?.isSome)).map (·.task))

/-- Every task that waits has something to wait for. -/
def IsPrompt (s : Session) : Prop := ∀ w ∈ s.waiters, w.2.isEmpty = false

/-- Ends the tasks that have nothing left to wait for. -/
def settle (s : Session) : Session :=
  { s with
    waiters := s.waiters.filter (!·.2.isEmpty)
    ended := s.ended ++ (s.waiters.filter (·.2.isEmpty)).map (·.1) }

theorem isPrompt_settle (s : Session) :
  s.settle.IsPrompt
  := by
  intro w mem
  simpa using (List.mem_filter.1 mem).2

theorem isPrompt_finish (s : Session) (id : Nat) :
  (s.finish id).IsPrompt
  := by
  intro w mem
  simpa using (List.mem_filter.1 mem).2

theorem settle_of_isPrompt {s : Session} (prompt : s.IsPrompt) :
  s.settle = s
  := by
  have kept : s.waiters.filter (!·.2.isEmpty) = s.waiters := by
    rw [List.filter_eq_self]
    intro w mem
    simp [prompt w mem]
  have gone : s.waiters.filter (·.2.isEmpty) = [] := by
    rw [List.filter_eq_nil_iff]
    intro w mem
    simp [prompt w mem]
  rw [settle, kept, gone]
  simp

/-- A task makes a call and waits for its reply. -/
def callFor (s : Session) (id : Nat) (call : Call) : Session :=
  { s with calls := s.calls ++ [call], waiting := s.waiting ++ [id] }

/-- A stop task without an executable ends at once. -/
theorem runTask_of_none {s : Session} {resolve : Path → Option String} {task : StopTask}
    (timeout : Option Binary64) (missing : resolve task.root = none) :
  s.runTask resolve timeout task = s.finish task.id
  := by
  rw [runTask, missing]

theorem runTask_of_waits {s : Session} {resolve : Path → Option String} {task : StopTask}
    {executable : String} (timeout : Option Binary64)
    (found : resolve task.root = some executable) (replies : s.replies = []) :
  s.runTask resolve timeout task = s.callFor task.id (stopCall executable task.root timeout)
  := by
  simp [runTask, found, replies, callFor]

/-- Where a reply lies ready, a stop task calls and ends at once. -/
theorem runTask_of_reply {s : Session} {resolve : Path → Option String} {task : StopTask}
    {executable : String} {reply : Reply} {rest : List Reply} (timeout : Option Binary64)
    (found : resolve task.root = some executable) (replies : s.replies = reply :: rest)
    (idle : task.id ∉ s.waiting) :
  s.runTask resolve timeout task =
    ({ s.callFor task.id (stopCall executable task.root timeout) with replies := rest }).finish
      task.id
  := by
  rw [runTask, found]
  simp only [replies]
  simp [callFor, Session.finish, List.erase_append_right _ idle, List.erase_of_not_mem idle]

/-- Who waits for no task ends at once. -/
theorem settle_await {s : Session} (prompt : s.IsPrompt) (task : Nat) :
  settle { s with waiters := s.waiters ++ [(task, s.servers.pending)] } = s.await task
  := by
  have same := settle_of_isPrompt prompt
  rw [settle, Session.mk.injEq] at same
  obtain ⟨-, -, -, kept, -, ended⟩ := same
  rw [settle, Session.await]
  simp only [List.filter_append, List.map_append, ← List.append_assoc, kept, ended]
  cases none : s.servers.pending.isEmpty <;> simp [none]

namespace Follows

variable {s : Session} {t : Stops}

/-- One who waits goes on exactly if an awaited task is pending. -/
theorem isNone_wake (follows : s.Follows t) {w : Waiter} (mem : w ∈ t.waiters) :
  (w.wake t.result?).result?.isNone =
    (w.result?.isNone && !(w.among t.servers.pending).2.isEmpty)
  := by
  have ended : w.awaited.all (t.result? · |>.isSome) = (w.among t.servers.pending).2.isEmpty := by
    rw [Bool.eq_iff_iff, List.all_eq_true, Waiter.among, List.isEmpty_iff,
      List.filter_eq_nil_iff]
    apply forall₂_congr
    intro id mem'
    rw [follows.accounts.isSome_result? (follows.accounts.awaited w mem id mem')]
    simp
  rw [Waiter.wake, ended]
  split
  · next done => simp_all
  · next goesOn => cases running : w.result?.isNone <;> simp_all

theorem among_wake (w : Waiter) (result? : Nat → Option (Except Failure Unit))
    (pending : List Nat) :
  (w.wake result?).among pending = w.among pending
  := by
  rw [Waiter.wake]
  split <;> rfl

/-- What passes one of two tests passes the first, or the second and not the first. -/
theorem filter_or_perm {α : Type} (l : List α) (p q : α → Bool) :
  (l.filter p ++ l.filter fun x => q x && !p x).Perm (l.filter fun x => p x || q x)
  := by
  have first (x : α) : (p x && (p x || q x)) = p x := by cases p x <;> rfl
  have second (x : α) : (!p x && (p x || q x)) = (q x && !p x) := by
    cases p x <;> cases q x <;> rfl
  have parts := List.filter_append_perm p (l.filter fun x => p x || q x)
  simpa only [List.filter_filter, first, second] using parts

theorem wake (follows : s.Follows t) :
  s.settle.Follows t.wake
  where
  accounts := follows.accounts.wake
  servers := follows.servers
  distinct := follows.distinct
  waiting := follows.waiting
  calls := follows.calls
  awaited w mem := by
    obtain ⟨v, known, rfl⟩ := List.mem_map.1 mem
    unfold Waiter.wake
    split <;> exact follows.awaited v known
  waiters := by
    have same : Waiter.among t.servers.pending ∘ (Waiter.wake · t.result?) =
        Waiter.among t.servers.pending := by
      funext w
      apply among_wake
    rw [settle, Stops.wake]
    simp only [follows.waiters, List.filter_map, List.map_map, List.filter_filter, same]
    congr 1
    apply List.filter_congr
    intro w mem
    rw [Function.comp_apply, Function.comp_apply, follows.isNone_wake mem, Bool.and_comm]
  ended := by
    have task : Waiter.task ∘ (Waiter.wake · t.result?) = Waiter.task := by
      funext w
      rw [Function.comp_apply, Waiter.wake]
      split <;> rfl
    have done : t.waiters.filter ((·.result?.isSome) ∘ (Waiter.wake · t.result?)) =
        t.waiters.filter fun w => w.result?.isSome || (w.among t.servers.pending).2.isEmpty := by
      apply List.filter_congr
      intro w mem
      rw [Function.comp_apply, ← Option.not_isNone, follows.isNone_wake mem, Bool.not_and,
        Bool.not_not, Option.not_isNone]
    rw [settle, Stops.wake]
    simp only [follows.waiters, List.filter_map, List.map_map, List.filter_filter, task, done]
    refine (follows.ended.append_right _).trans ?_
    -- Those who have ended now had not ended before.
    have parts := (filter_or_perm t.waiters (·.result?.isSome)
      fun w => (w.among t.servers.pending).2.isEmpty).map Waiter.task
    simp only [List.map_append, Option.not_isSome] at parts
    exact parts

theorem add (follows : s.Follows t) (root : Path) :
  Follows { s with servers := s.servers.add root }
    { t with servers := t.servers.add root }
  := by
  have pending : (t.servers.add root).pending = t.servers.pending := by
    unfold Servers.add; split <;> rfl
  exact { follows with
    accounts := follows.accounts.add root
    servers := by rw [follows.servers]
    waiters := by rw [pending]; exact follows.waiters }

theorem await (follows : s.Follows t) (task : Nat) :
  Follows { s with waiters := s.waiters ++ [(task, s.servers.pending)] } (t.await task)
  := by
  refine { follows with
    accounts := follows.accounts.await task
    awaited := ?_
    waiters := ?_
    ended := ?_ }
  · intro w mem
    rcases List.mem_append.1 mem with mem | mem
    · exact follows.awaited w mem
    · obtain rfl := List.mem_singleton.1 mem
      exact follows.accounts.nodup_pending
  · have all : t.servers.pending.filter t.servers.pending.contains = t.servers.pending := by
      rw [List.filter_eq_self]
      intro id mem
      exact List.contains_iff_mem.2 mem
    simp [Stops.await, follows.waiters, follows.servers, List.filter_append, Waiter.among, all]
  · simpa [Stops.await, List.filter_append] using follows.ended

theorem schedule (follows : s.Follows t) (timeout : Option Binary64) :
  Follows { s with servers := s.servers.stopAll.1 } (t.schedule timeout)
  := by
  refine { follows with
    accounts := follows.accounts.schedule timeout
    servers := by rw [follows.servers]; rfl
    waiting := ?_
    calls := ?_
    waiters := ?_ }
  · intro id mem
    obtain ⟨c, known, same, calling⟩ := follows.waiting id mem
    exact ⟨c, List.mem_append_left _ known, same, calling⟩
  · have silent : (t.servers.stopAll.2.map (Course.start timeout)).flatMap Course.calls = [] := by
      simp [List.flatMap_eq_nil_iff, Course.start, Course.calls]
    rw [Stops.schedule, List.flatMap_append, silent, List.append_nil]
    exact follows.calls
  · rw [follows.waiters]
    apply List.map_congr_left
    intro w mem
    have known := (List.mem_filter.1 mem).1
    rw [Waiter.among, Waiter.among]
    congr 1
    apply List.filter_congr
    intro id mem'
    have old := follows.accounts.awaited w known id mem'
    have new : id ∉ t.servers.stopAll.2.map (·.id) := by
      rw [map_id_stopAll, List.mem_map]
      rintro ⟨n, -, rfl⟩
      omega
    simp only [Stops.schedule, pending_stopAll, List.contains_eq_mem, List.mem_append, new,
      or_false]

theorem mem_courses_tell {d : Course} (known : d ∈ t.courses) {id : Nat}
    (other : d.task.id ≠ id) (turn : Turn) :
  d ∈ (t.tell id turn).courses
  := List.mem_map.2 ⟨d, known, if_neg other⟩

/-- Telling something to a task leaves the others as they are. -/
theorem courses_tell (accounts : t.Accounts) {before after : List Course} {c : Course}
    (cut : t.courses = before ++ c :: after) (turn : Turn) :
  (t.tell c.task.id turn).courses = before ++ c.turn turn :: after
  := by
  have nodup := accounts.nodup_ids
  rw [cut, List.map_append, List.map_cons, List.nodup_middle, List.nodup_cons] at nodup
  have other {d : Course} (mem : d ∈ before ++ after) :
      (if d.task.id = c.task.id then d.turn turn else d) = d := by
    apply if_neg
    intro same
    apply nodup.1
    rw [← same, ← List.map_append]
    exact List.mem_map_of_mem mem
  have others {part : List Course} (subset : part ⊆ before ++ after) :
      part.map (fun d => if d.task.id = c.task.id then d.turn turn else d) = part :=
    (List.map_congr_left fun d mem => other (subset mem)).trans (List.map_id' part)
  rw [Stops.tell, cut, List.map_append, List.map_cons, if_pos rfl,
    others (List.subset_append_left ..), others (List.subset_append_right ..)]

/-- A task that ends is no longer waited for. -/
theorem finish (follows : s.Follows t) {c : Course} (mem : c ∈ t.courses) {turn : Turn}
    (ends : t.ends c.task.id turn = true) (silent : (c.turn turn).calls = c.calls) :
  (s.finish c.task.id).Follows (t.step (.turn c.task.id turn))
  := by
  obtain ⟨before, after, cut⟩ := List.append_of_mem mem
  have courses := courses_tell follows.accounts cut turn
  have accounts := follows.accounts.tell c.task.id turn
  have servers : (t.tell c.task.id turn).servers = t.servers.finish c.task.id := by
    rw [Stops.tell, ends, if_pos rfl]
  let told : Session :=
    { s with
      servers := s.servers.finish c.task.id
      waiting := s.waiting.erase c.task.id
      waiters := s.waiters.map fun w => (w.1, w.2.erase c.task.id) }
  have follows' : told.Follows (t.tell c.task.id turn) := {
    accounts := accounts
    servers := by rw [servers, ← follows.servers]
    distinct := follows.distinct.erase _
    waiting := by
      intro id waits
      rw [follows.distinct.mem_erase_iff] at waits
      obtain ⟨d, known, rfl, calling⟩ := follows.waiting id waits.2
      exact ⟨d, mem_courses_tell known waits.1 turn, rfl, calling⟩
    calls := by
      rw [courses, List.flatMap_append, List.flatMap_cons, silent, ← List.flatMap_cons,
        ← List.flatMap_append, ← cut]
      exact follows.calls
    awaited := follows.awaited
    waiters := by
      change s.waiters.map _ = _
      rw [follows.waiters, List.map_map, servers]
      apply List.map_congr_left
      intro w known
      have nodup := follows.awaited w (List.mem_filter.1 known).1
      simp only [Function.comp_apply, Waiter.among, Prod.mk.injEq, true_and]
      rw [(nodup.filter _).erase_eq_filter, List.filter_filter]
      apply List.filter_congr
      intro id _
      rw [Bool.eq_iff_iff]
      simp [Servers.finish, follows.accounts.nodup_pending.mem_erase_iff]
    ended := follows.ended }
  exact follows'.wake

/-- A task that has not begun has no call to be answered. -/
theorem not_mem_waiting (follows : s.Follows t) {task : StopTask} {timeout : Option Binary64}
    (mem : Course.start timeout task ∈ t.courses) :
  task.id ∉ s.waiting
  := by
  intro waits
  obtain ⟨c, known, same, calling⟩ := follows.waiting task.id waits
  obtain rfl := follows.accounts.course_unique known mem same
  cases calling

/-- A task that begins to call waits for its reply. -/
theorem call (follows : s.Follows t) (prompt : s.IsPrompt) {task : StopTask}
    {timeout : Option Binary64} (mem : Course.start timeout task ∈ t.courses)
    (executable : String) :
  (s.callFor task.id (stopCall executable task.root timeout)).Follows
    (t.step (.turn task.id (.begun (.ok executable))))
  := by
  obtain ⟨before, after, cut⟩ := List.append_of_mem mem
  let turn : Turn := .begun (.ok executable)
  have courses := courses_tell follows.accounts cut turn
  have runs : t.ends task.id turn = false := by
    have := follows.accounts.isRunning_tell task.id turn mem
    simpa [Course.start, turn, Course.turn, Course.isRunning, Course.ask] using this
  have servers : (t.tell task.id turn).servers = t.servers := by
    simp [Stops.tell, runs]
  have follows' : (s.callFor task.id (stopCall executable task.root timeout)).Follows
      (t.tell task.id turn) := {
    accounts := follows.accounts.tell task.id turn
    servers := by
      rw [servers]
      exact follows.servers
    distinct := by
      rw [callFor, ← List.concat_eq_append]
      exact follows.distinct.concat (follows.not_mem_waiting mem)
    waiting := by
      intro id waits
      rcases List.mem_append.1 waits with waits | waits
      · have other : id ≠ task.id := fun same => follows.not_mem_waiting mem (same ▸ waits)
        obtain ⟨c, known, rfl, calling⟩ := follows.waiting id waits
        exact ⟨c, mem_courses_tell known other turn, rfl, calling⟩
      · obtain rfl := List.mem_singleton.1 waits
        exact ⟨_, List.mem_map.2 ⟨_, mem, if_pos rfl⟩, rfl, rfl⟩
    calls := by
      have silent : (Course.start timeout task).calls = [] := rfl
      have called : ((Course.start timeout task).turn turn).calls =
          [stopCall executable task.root timeout] := rfl
      have calls := follows.calls
      rw [cut, List.flatMap_append, List.flatMap_cons, silent, List.nil_append] at calls
      change List.Perm _ ((t.tell (Course.start timeout task).task.id turn).courses.flatMap _)
      rw [courses, List.flatMap_append, List.flatMap_cons, called]
      refine (calls.append_right _).trans ?_
      rw [List.append_assoc]
      exact List.perm_append_comm.append_left _
    awaited := follows.awaited
    waiters := by
      rw [servers]
      exact follows.waiters
    ended := follows.ended }
  have prompt' : (s.callFor task.id (stopCall executable task.root timeout)).IsPrompt := prompt
  rw [← settle_of_isPrompt prompt']
  exact follows'.wake

/-- A course that has just come to its end ends. -/
theorem ends_turn (follows : s.Follows t) {c : Course} (mem : c ∈ t.courses) {turn : Turn}
    (running : c.isRunning = true) (done : (c.turn turn).isRunning = false) :
  t.ends c.task.id turn = true
  := by
  have := follows.accounts.isRunning_tell c.task.id turn mem
  simpa [running, done] using this

/-- A task that runs and is brought to its end has finished. -/
theorem finish_of_endOn (follows : s.Follows t) {c : Course} (mem : c ∈ t.courses)
    (running : c.isRunning = true) {turn : Turn} {outcome : Except Failure Unit}
    (ending : c.turn turn = c.endOn outcome) :
  (s.finish c.task.id).Follows (t.step (.turn c.task.id turn))
  := by
  apply follows.finish mem
  · apply follows.ends_turn mem running
    rw [ending]
    rfl
  · rw [ending]
    rfl

/-- A stop task that is run up to its reply is told that it begins, and perhaps the reply. -/
theorem runTask (follows : s.Follows t) (prompt : s.IsPrompt)
    (resolve : Path → Option String) {timeout : Option Binary64} {task : StopTask}
    (mem : Course.start timeout task ∈ t.courses) :
  ∃ turns : List Turn,
    (s.runTask resolve timeout task).Follows ((turns.map (.turn task.id)).foldl Stops.step t) ∧
      (s.runTask resolve timeout task).IsPrompt
  := by
  cases found : resolve task.root with
  | none =>
    rw [runTask_of_none timeout found]
    refine ⟨[.begun (.error (.runtime ""))], ?_, isPrompt_finish _ _⟩
    exact follows.finish mem (follows.ends_turn mem rfl rfl) rfl
  | some executable =>
    have calls := follows.call prompt mem executable
    cases replies : s.replies with
    | nil =>
      rw [runTask_of_waits timeout found replies]
      exact ⟨[.begun (.ok executable)], calls, prompt⟩
    | cons reply rest =>
      rw [runTask_of_reply timeout found replies (follows.not_mem_waiting mem)]
      refine ⟨[.begun (.ok executable), .replied reply], ?_, isPrompt_finish _ _⟩
      have calls' : Follows
          { s.callFor task.id (stopCall executable task.root timeout) with replies := rest }
          (t.step (.turn task.id (.begun (.ok executable)))) := { calls with }
      have known : (Course.start timeout task).turn (.begun (.ok executable)) ∈
          (t.step (.turn task.id (.begun (.ok executable)))).courses :=
        List.mem_map.2 ⟨_, mem, if_pos rfl⟩
      exact calls'.finish known (calls'.ends_turn known rfl rfl) rfl

/-- Stop tasks of one round are run one after the other. -/
theorem runTasks (follows : s.Follows t) (prompt : s.IsPrompt)
    (resolve : Path → Option String) {timeout : Option Binary64} {tasks : List StopTask}
    (distinct : (tasks.map (·.id)).Nodup)
    (fresh : ∀ task ∈ tasks, Course.start timeout task ∈ t.courses) :
  let s' := tasks.foldl (fun s task => s.runTask resolve timeout task) s
  ∃ events : List Stops.Event, s'.Follows (events.foldl Stops.step t) ∧ s'.IsPrompt
  := by
  induction tasks generalizing s t with
  | nil => exact ⟨[], follows, prompt⟩
  | cons task tasks ih =>
    rw [List.map_cons, List.nodup_cons] at distinct
    obtain ⟨turns, follows', prompt'⟩ := follows.runTask prompt resolve (fresh task List.mem_cons_self)
    have later (next : StopTask) (mem : next ∈ tasks) : Course.start timeout next ∈
        ((turns.map (.turn task.id)).foldl Stops.step t).courses := by
      have other : next.id ≠ task.id := by
        intro same
        apply distinct.1
        rw [← same]
        exact List.mem_map_of_mem mem
      have known := fresh next (List.mem_cons_of_mem _ mem)
      clear follows follows' fresh
      induction turns generalizing t with
      | nil => exact known
      | cons turn turns ih =>
        exact ih (mem_courses_tell known other turn)
    obtain ⟨events, follows'', prompt''⟩ := ih follows' prompt' distinct.2 later
    refine ⟨turns.map (Stops.Event.turn task.id) ++ events, ?_, prompt''⟩
    rw [List.foldl_append]
    exact follows''

theorem stopAll (follows : s.Follows t) (prompt : s.IsPrompt) (resolve : Path → Option String)
    (timeout : Option Binary64) (waiter : Option Nat) :
  ∃ events : List Stops.Event,
    (s.stopAll resolve timeout waiter).1.Follows (events.foldl Stops.step t) ∧
      (s.stopAll resolve timeout waiter).1.IsPrompt
  := by
  have scheduled := follows.schedule timeout
  have prompt' : Session.IsPrompt { s with servers := s.servers.stopAll.1 } := prompt
  obtain ⟨s', begun, prompt', same⟩ : ∃ s' : Session,
      s'.Follows (t.step (.stopAll timeout waiter)) ∧ s'.IsPrompt ∧
        (s.stopAll resolve timeout waiter).1 =
          s.servers.stopAll.2.foldl (fun s task => s.runTask resolve timeout task) s' := by
    cases waiter with
    | none =>
      have begun := scheduled.wake
      rw [settle_of_isPrompt prompt'] at begun
      exact ⟨_, begun, prompt', rfl⟩
    | some n =>
      have begun := (scheduled.await n).wake
      rw [settle_await prompt'] at begun
      refine ⟨_, begun, ?_, rfl⟩
      rw [← settle_await prompt']
      apply isPrompt_settle
  have courses : (t.step (.stopAll timeout waiter)).courses = (t.schedule timeout).courses := by
    cases waiter <;> rfl
  have distinct : (s.servers.stopAll.2.map (·.id)).Nodup := by
    rw [map_id_stopAll]
    exact List.nodup_range.map fun _ _ => Nat.add_left_cancel
  have fresh (task : StopTask) (mem : task ∈ s.servers.stopAll.2) :
      Course.start timeout task ∈ (t.step (.stopAll timeout waiter)).courses := by
    rw [courses, Stops.schedule, ← follows.servers]
    exact List.mem_append_right _ (List.mem_map_of_mem mem)
  obtain ⟨events, done, prompt''⟩ := begun.runTasks prompt' resolve distinct fresh
  rw [same]
  exact ⟨.stopAll timeout waiter :: events, done, prompt''⟩

theorem perform (follows : s.Follows t) (prompt : s.IsPrompt) (operation : Operation) :
  ∃ events : List Stops.Event,
    (s.perform operation).Follows (events.foldl Stops.step t) ∧ (s.perform operation).IsPrompt
  := by
  cases operation with
  | add root =>
    have added := (follows.add root).wake
    have prompt' : Session.IsPrompt { s with servers := s.servers.add root } := prompt
    rw [settle_of_isPrompt prompt'] at added
    exact ⟨[.add root], added, prompt'⟩
  | stopAll resolve timeout waiter => exact follows.stopAll prompt resolve timeout waiter
  | await task =>
    have waits := (follows.await task).wake
    have prompt' := isPrompt_settle { s with waiters := s.waiters ++ [(task, s.servers.pending)] }
    rw [settle_await prompt] at waits prompt'
    exact ⟨[.wait task], waits, prompt'⟩
  | respond index reply =>
    cases waits : s.waiting[index]? with
    | none =>
      refine ⟨[], ?_, ?_⟩ <;> simpa [Session.perform, Session.respond?, waits]
    | some id =>
      obtain ⟨c, mem, rfl, calling⟩ := follows.waiting id (List.mem_of_getElem? waits)
      have running : c.isRunning = true := (Bool.and_eq_true_iff.1 calling).1
      have same : s.perform (.respond index reply) = s.finish c.task.id := by
        simp [Session.perform, Session.respond?, waits]
      rw [same]
      exact ⟨[.turn c.task.id (.replied reply)],
        follows.finish_of_endOn mem running (if_pos calling), isPrompt_finish _ _⟩
  | cancel id =>
    rw [Session.perform, Session.cancel]
    split
    · next pending =>
      rw [List.contains_iff_mem, follows.servers, follows.accounts.pending] at pending
      obtain ⟨c, known, rfl⟩ := List.mem_map.1 pending
      obtain ⟨mem, running⟩ := List.mem_filter.1 known
      exact ⟨[.turn c.task.id .cancelled],
        follows.finish_of_endOn mem running (if_pos running), isPrompt_finish _ _⟩
    · exact ⟨[], follows, prompt⟩

end Follows

/-- After any operations a session is what some events leave. -/
theorem exists_events (replies : List Reply) (operations : List Operation) :
  ∃ events, (operations.foldl perform { replies }).Follows (Stops.run events)
  := by
  suffices ∃ events : List Stops.Event, (operations.foldl perform { replies }).Follows
      (Stops.run events) ∧ (operations.foldl perform { replies }).IsPrompt by
    obtain ⟨events, follows, -⟩ := this
    exact ⟨events, follows⟩
  induction operations using List.reverseRecOn with
  | nil =>
    refine ⟨[], ?_, ?_⟩
    · have accounts := Stops.accounts_run []
      constructor <;> first | exact accounts | simp [Stops.run]
    · simp [IsPrompt]
  | append_singleton operations operation ih =>
    obtain ⟨past, follows, prompt⟩ := ih
    obtain ⟨events, done⟩ := follows.perform prompt operation
    refine ⟨past ++ events, ?_⟩
    rw [List.foldl_append, Stops.run_append]
    exact done

end Session

end TypeCoverage.Servers
