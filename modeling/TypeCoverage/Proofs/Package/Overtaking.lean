import TypeCoverage.Proofs.Package.Coherence
import TypeCoverage.Proofs.Package.Live
import TypeCoverage.Proofs.Request.GivenUp

/-!
# Which lint of a document wins

Invocations with one key succeed one another in the order in which their programs are
started.  This need not be the order of the lints that they belong to: a lint whose program
is slow to start, or that calls a busy checker again, may overtake one that began later,
and then the later one ends with nothing (`Live.LosesTo`).

A lint is safe from this exactly if, at the time its program is started, the programs of
all earlier lints of the document run (`Live.newest_wins_iff`).  They have been overtaken
then, and an overtaken lint makes no further call (`Live.Behind.step`).  The exception are
executables with the words of a busy notice in their names, because a lint that waits too
long for such a program calls it again.
-/

namespace TypeCoverage

/-- An invocation that has been superseded ends its lint, unless the checker takes too long
and is named like a busy one. -/
theorem Lint.Pending.hear_superseded (lint : Lint.Pending) {i : Invocation}
    (own : i.call = lint.call) (superseded : i.superseded = true)
    (plain : ¬ Busy.IsNotice lint.call.executable) (outcome : Outcome) :
  ∃ result, lint.hear (i.reply outcome) = .ended result
  := by
  cases outcome with
  | exited exit =>
    have reply : i.reply (.exited exit) = .replaced := by
      simp [Invocation.reply, Call.reply, superseded]
    rw [reply]
    exact ⟨_, rfl⟩
  | timedOut =>
    have quiet : Busy.isTransient
        (Fault.timeout i.call.command i.call.reportedTimeout).message = false := by
      rw [← Bool.not_eq_true, Busy.isTransient_iff, Fault.isNotice_timeout_iff, own]
      apply plain
    refine ⟨.error (.fault (.timeout i.call.command i.call.reportedTimeout)), ?_⟩
    simp [Invocation.reply, Call.reply, hear, Request.hear, quiet]
  | cancelled => exact ⟨_, rfl⟩

/-- A lint that waits too long for a checker that is named like a busy one calls it again. -/
theorem Lint.Pending.hear_timedOut (lint : Lint.Pending) {i : Invocation}
    (own : i.call = lint.call) (notice : Busy.IsNotice lint.call.executable) :
  ∃ root, lint.hear (i.reply .timedOut) = .busy root
  := by
  have busy : Busy.isTransient
      (Fault.timeout i.call.command i.call.reportedTimeout).message = true := by
    rw [Busy.isTransient_iff, Fault.isNotice_timeout_iff, own]
    apply notice
  simp [Invocation.reply, Call.reply, hear, Request.hear, busy]

namespace Package.Live

open Dispatch (registrations Latest Ended)

/-- A live session after some steps. -/
def run (l : Live) (steps : List Step) : Live := steps.foldl step l

/-- The call of lint `m` of a document would supersede invocation `id` of task `n` if its
program were started. -/
def Overtakes (l : Live) (document : String) (m n id : Nat) : Prop :=
  ∃ lint, (m, .lint lint) ∈ l.session.jobs ∧ lint.document.id = document ∧
    l.launching? m = some lint.call ∧ l.dispatch.running.rival? lint.call = some id ∧
    (n, id) ∈ l.started

/-- In some steps task `n` ends with nothing, because its invocation was superseded when the
program of lint `m` of a document was started. -/
def LosesTo (l : Live) (document : String) (n m : Nat) (steps : List Step) : Prop :=
  ∃ before child between exit id,
    steps = before ++ .launch m (.ok child) :: (between ++ [.finish n (.exited exit)]) ∧
    (l.run before).Overtakes document m n id ∧
    (l.run (before ++ .launch m (.ok child) :: between)).finishing? n (.exited exit) =
      some (id, .replaced) ∧
    (n, .ok none) ∈ (l.run steps).session.ended

/-! ### Programs that run -/

/-- The programs that were started for tasks run, each for one task. -/
structure Attended (started : List (Nat × Nat)) (past : List Dispatch.Event) : Prop where
  nodup : (started.map (·.2)).Nodup
  running : ∀ p ∈ started, p.2 ∈ (registrations past).map (·.1) ∧ ¬ Ended past p.2

theorem Attended.step {h : Record} (attended : Attended h.live.started h.past) (sound : h.Sound)
    (next : Step) :
  Attended (h.step next).live.started (h.step next).past
  := by
  have follows := Dispatch.follows_run h.past
  rw [← sound.dispatch] at follows
  cases next with
  | host action =>
    rw [Record.step_host]
    apply attended
  | launch task spawned =>
    cases waits : h.live.launching? task with
    | none =>
      rw [Record.step_launch_of_none waits]
      apply attended
    | some call =>
      have more := Dispatch.registrations_subset_concat h.past (.launched call spawned)
      have kept : ∀ p ∈ h.live.started,
          p.2 ∈ (registrations (h.past ++ [.launched call spawned])).map (·.1) ∧
            ¬ Ended (h.past ++ [.launched call spawned]) p.2 := by
        intro p mem
        obtain ⟨registered, runs⟩ := attended.running p mem
        refine ⟨List.map_subset _ more registered, ?_⟩
        simpa [Dispatch.ended_concat] using runs
      cases spawned with
      | error why =>
        rw [Record.step_launch_error waits]
        exact ⟨attended.nodup, kept⟩
      | ok child =>
        rw [Record.step_launch_ok waits]
        constructor
        · have fresh : h.live.dispatch.next ∉ h.live.started.map (·.2) := by
            intro mem
            obtain ⟨p, started, same⟩ := List.mem_map.mp mem
            obtain ⟨q, registered, same'⟩ := List.mem_map.mp (attended.running p started).1
            apply Nat.ne_of_lt (follows.below q registered) (same'.trans same)
          rw [List.map_append, List.nodup_append]
          refine ⟨attended.nodup, List.nodup_singleton _, ?_⟩
          intro id mem other mem'
          rw [List.mem_singleton.mp mem']
          rintro rfl
          apply fresh mem
        · intro p mem
          rcases List.mem_append.mp mem with old | new
          · apply kept p old
          · obtain rfl := List.mem_singleton.mp new
            rw [Dispatch.registrations_concat, ← sound.dispatch]
            constructor
            · rw [List.map_append]
              apply List.mem_append_right _ List.mem_cons_self
            · simpa [Dispatch.ended_concat] using follows.not_ended_next
  | finish task outcome =>
    cases finishing : h.live.finishing? task outcome with
    | none =>
      rw [Record.step_finish_of_none finishing]
      apply attended
    | some answer =>
      obtain ⟨id, reply⟩ := answer
      rw [Record.step_finish finishing]
      have runs := (finishing_running finishing).1
      constructor
      · apply attended.nodup.sublist (List.filter_sublist.map _)
      · intro p mem
        obtain ⟨started, other⟩ := List.mem_filter.mp mem
        obtain ⟨registered, running⟩ := attended.running p started
        rw [Dispatch.registrations_concat, List.map_append]
        refine ⟨List.mem_append_left _ registered, ?_⟩
        rw [Dispatch.ended_concat, not_or]
        refine ⟨running, ?_⟩
        rintro ⟨⟨_, same⟩, -⟩
        obtain ⟨same, -⟩ := Dispatch.Event.ended.inj same
        have own := List.inj_on_of_nodup_map attended.nodup started runs same.symm
        simp [own] at other

/-! ### Lints that have been overtaken -/

/-- All lints of a document that began before task `n` are being carried out by invocations
that have been overtaken, and will not call the checker again. -/
structure Behind (h : Record) (document : String) (n : Nat) : Prop where
  given : n < h.live.session.next
  carried : ∀ m < n, ∀ earlier, (m, .lint earlier) ∈ h.live.session.jobs →
    earlier.document.id = document →
      ∃ id, h.live.started.lookup m = some id ∧ ¬ Latest h.past (Lint.uniqueKey document) id ∧
        ¬ Busy.IsNotice earlier.call.executable

theorem mem_of_lookup {started : List (Nat × Nat)} {task id : Nat}
    (found : started.lookup task = some id) :
  (task, id) ∈ started
  := by
  obtain ⟨before, after, rfl, -⟩ := List.lookup_eq_some_iff.mp found
  apply List.mem_append_right _ List.mem_cons_self

theorem lookup_append_of_some {started : List (Nat × Nat)} {task id : Nat}
    (found : started.lookup task = some id) (more : List (Nat × Nat)) :
  (started ++ more).lookup task = some id
  := by
  rw [List.lookup_append, found]
  rfl

theorem lookup_of_finishing {l : Live} {task id : Nat} {outcome : Outcome} {reply : Reply}
    (finishing : l.finishing? task outcome = some (id, reply)) :
  l.started.lookup task = some id
  := by
  obtain ⟨id', found, finished⟩ := Option.bind_eq_some_iff.mp finishing
  obtain ⟨_, -, same⟩ := Option.map_eq_some_iff.mp finished
  rw [found, (Prod.mk.inj same).1]

/-- A reply that ends a lint takes its task from those that run. -/
theorem answer_of_hear_ended {s : Session} (numbered : s.tasks.Numbered) {task : Nat}
    {lint : Lint.Pending} (waits : (task, .lint lint) ∈ s.jobs) {reply : Reply}
    {result : Lint.Result} (heard : lint.hear reply = .ended result) :
  s.answer task reply = (s.forget task).endTask task result
  := by
  have ends : s.package.hearReply lint reply = (s.package, [], .ended result) := by
    rw [hearReply, heard]
  rw [Session.answer, Session.answer_of_ended (Session.lookup_of_mem_jobs numbered waits) ends]
  simp [Session.commit, Session.emit, Session.countNotifications, Session.forget]

/-- The invocation that is being carried out for a lint is its own. -/
theorem Record.Sound.invocation {h : Record} (sound : h.Sound) {m id : Nat}
    {lint : Lint.Pending} (waits : (m, .lint lint) ∈ h.live.session.jobs)
    (started : (m, id) ∈ h.live.started) {i : Invocation}
    (found : h.live.dispatch.running.find? id = some i) :
  i.call = lint.call ∧
    (i.superseded = true ↔ ¬ Latest h.past (Lint.uniqueKey lint.document.id) id)
  := by
  rw [sound.dispatch] at found
  have follows := Dispatch.follows_run h.past
  have called := sound.linked.calls _ started lint waits
  have same := follows.call_unique (follows.found id i found).2.1 called
  have keyed : i.call.uniqueKey = some (Lint.uniqueKey lint.document.id) := by
    rw [same]
    apply sound.ready.keyed m lint waits
  refine ⟨same, ?_⟩
  rw [follows.mark id i found]
  simp [keyed]

/-- A program that is started for a document overtakes all others of the document. -/
theorem Record.Sound.not_latest_launched {h : Record} (sound : h.Sound) {m id : Nat}
    {lint : Lint.Pending} (waits : (m, .lint lint) ∈ h.live.session.jobs)
    (started : (m, id) ∈ h.live.started) {call : Call}
    (own : call.uniqueKey = some (Lint.uniqueKey lint.document.id)) (child : Child) :
  ¬ Latest (h.past ++ [.launched call (.ok child)]) (Lint.uniqueKey lint.document.id) id
  := by
  have called := sound.linked.calls _ started lint waits
  rw [Dispatch.latest_launched, if_pos own]
  apply Nat.ne_of_lt ((Dispatch.follows_run h.past).below _ called)

namespace Behind

variable {h : Record} {document : String} {n : Nat}

/-- The lints that were behind stay behind where their programs run on. -/
theorem of_carried {h' : Record} (behind : Behind h document n)
    (continues : h.live.session.tasks.Continues h'.live.session.tasks)
    (carried : ∀ m < n, ∀ earlier, (m, .lint earlier) ∈ h.live.session.jobs →
      (m, .lint earlier) ∈ h'.live.session.jobs → earlier.document.id = document →
        ∀ id, h.live.started.lookup m = some id →
          ¬ Latest h.past (Lint.uniqueKey document) id →
            ¬ Busy.IsNotice earlier.call.executable →
              h'.live.started.lookup m = some id ∧
                ¬ Latest h'.past (Lint.uniqueKey document) id) :
  Behind h' document n
  where
  given := Nat.lt_of_lt_of_le behind.given continues.next
  carried m before earlier waits own := by
    rcases continues.lints m earlier waits with old | ⟨new, -⟩
    · obtain ⟨id, found, overtaken, plain⟩ := behind.carried m before earlier old own
      obtain ⟨found, overtaken⟩ := carried m before earlier old waits own id found overtaken plain
      exact ⟨id, found, overtaken, plain⟩
    · apply absurd (Nat.lt_trans before behind.given) (Nat.not_lt_of_le new)

/-- Lints that are behind stay behind. -/
theorem step (behind : Behind h document n) (sound : h.Sound) (next : Step) :
  Behind (h.step next) document n
  := by
  cases next with
  | host action =>
    rw [Record.step_host]
    apply behind.of_carried (Session.Tasks.Continues.act h.live.session action)
    intro m _ earlier _ _ _ id found overtaken _
    exact ⟨found, overtaken⟩
  | launch task spawned =>
    cases waits : h.live.launching? task with
    | none =>
      rw [Record.step_launch_of_none waits]
      apply behind
    | some call =>
      cases spawned with
      | error why =>
        rw [Record.step_launch_error waits]
        apply behind.of_carried (continues_answer ..)
        intro m _ earlier _ _ _ id found overtaken _
        rw [Dispatch.latest_of_registered_nil rfl]
        exact ⟨found, overtaken⟩
      | ok child =>
        rw [Record.step_launch_ok waits]
        refine behind.of_carried (.refl h.live.session.tasks) ?_
        intro m _ earlier waits _ own id found overtaken _
        refine ⟨lookup_append_of_some found _, ?_⟩
        by_cases same : call.uniqueKey = some (Lint.uniqueKey document)
        · rw [← own] at same ⊢
          apply sound.not_latest_launched waits (mem_of_lookup found) same
        · rw [Dispatch.latest_launched, if_neg same]
          apply overtaken
  | finish task outcome =>
    cases finishing : h.live.finishing? task outcome with
    | none =>
      rw [Record.step_finish_of_none finishing]
      apply behind
    | some answer =>
      obtain ⟨id, reply⟩ := answer
      rw [Record.step_finish finishing]
      apply behind.of_carried (continues_answer ..)
      intro m _ earlier waits waits' own id' found overtaken plain
      rw [Dispatch.latest_of_registered_nil rfl]
      by_cases own_task : m = task
      · -- An overtaken invocation ends its lint.
        subst own_task
        obtain ⟨started, i, present, rfl⟩ := finishing_running finishing
        obtain rfl := Option.some.inj (found.symm.trans (lookup_of_finishing finishing))
        obtain ⟨same, mark⟩ := sound.invocation waits started present
        rw [own] at mark
        obtain ⟨result, ended⟩ := earlier.hear_superseded same (mark.mpr overtaken) plain outcome
        rw [answer_of_hear_ended sound.ready.numbered waits ended] at waits'
        simp [Session.endTask, Session.forget] at waits'
      · rw [Running.lookup_filter_fst_ne own_task]
        exact ⟨found, overtaken⟩

/-- When the program of a lint is started, all earlier lints of its document whose programs
run fall behind. -/
theorem launch (sound : h.Sound) {lint : Lint.Pending}
    (waits : (n, .lint lint) ∈ h.live.session.jobs)
    (launching : h.live.launching? n = some lint.call)
    (run : ∀ m < n, ∀ earlier, (m, .lint earlier) ∈ h.live.session.jobs →
      earlier.document.id = lint.document.id →
        (∃ id, h.live.started.lookup m = some id) ∧ ¬ Busy.IsNotice earlier.call.executable)
    (child : Child) :
  Behind (h.step (.launch n (.ok child))) lint.document.id n
  := by
  rw [Record.step_launch_ok launching]
  constructor
  · apply sound.ready.numbered.below
    apply List.mem_append_left _ (List.mem_map.mpr ⟨_, waits, rfl⟩)
  · intro m before earlier waits' own
    obtain ⟨⟨id, found⟩, plain⟩ := run m before earlier waits' own
    refine ⟨id, lookup_append_of_some found _, ?_, plain⟩
    rw [← own]
    apply sound.not_latest_launched waits' (mem_of_lookup found)
    rw [own]
    apply sound.ready.keyed n lint waits

end Behind

theorem run_append (l : Live) (first second : List Step) :
  l.run (first ++ second) = (l.run first).run second
  := List.foldl_append

theorem live_foldl (h : Record) (steps : List Step) :
  (steps.foldl Record.step h).live = h.live.run steps
  := by
  induction steps generalizing h with
  | nil => rfl
  | cons next steps ih => apply ih

/-- What holds of a record, and of the programs in it, holds of those that follow. -/
theorem sound_foldl {h : Record} (sound : h.Sound) (attended : Attended h.live.started h.past)
    (steps : List Step) :
  (steps.foldl Record.step h).Sound ∧
    Attended (steps.foldl Record.step h).live.started (steps.foldl Record.step h).past
  := by
  induction steps generalizing h with
  | nil => exact ⟨sound, attended⟩
  | cons next steps ih => apply ih (sound.step next) (attended.step sound next)

theorem attended_record (settings : Settings) (tree : FileTree) (timeout : Option Binary64)
    (steps : List Step) :
  Attended (record settings tree timeout steps).live.started
    (record settings tree timeout steps).past
  := by
  apply (sound_foldl (sound_record settings tree timeout []) _ steps).2
  exact ⟨List.nodup_nil, by simp [record]⟩

theorem Behind.foldl {h : Record} {document : String} {n : Nat} (behind : Behind h document n)
    (sound : h.Sound) (steps : List Step) :
  Behind (steps.foldl Record.step h) document n
  := by
  induction steps generalizing h with
  | nil => apply behind
  | cons next steps ih => apply ih (behind.step sound next) (sound.step next)

/-- A lint does not lose to one that is behind it. -/
theorem Behind.lt_of_losesTo {h : Record} {document : String} {n m : Nat}
    (behind : Behind h document n) (sound : h.Sound) {steps : List Step}
    (loses : LosesTo h.live document n m steps) :
  n < m
  := by
  obtain ⟨before, child, between, exit, id, -, overtakes, -, -⟩ := loses
  have still := behind.foldl sound before
  rw [← live_foldl] at overtakes
  obtain ⟨earlier, waits, own, launching, -, started⟩ := overtakes
  obtain ⟨idle, -⟩ := launching_iff.mp launching
  by_contra not_later
  rcases Nat.lt_or_eq_of_le (Nat.not_lt.mp not_later) with before_n | rfl
  · obtain ⟨id', found, -⟩ := still.carried m before_n earlier waits own
    rw [idle] at found
    contradiction
  · have absent := List.lookup_eq_none_iff.mp idle _ started
    simp at absent

/-! ### Lints that overtake -/

/-- The program that runs for a task can end its wait. -/
theorem exists_finishing {h : Record} (sound : h.Sound)
    (attended : Attended h.live.started h.past) {task id : Nat}
    (found : h.live.started.lookup task = some id) (outcome : Outcome) :
  ∃ i, h.live.dispatch.running.find? id = some i ∧
    h.live.finishing? task outcome = some (id, i.reply outcome)
  := by
  obtain ⟨registered, running⟩ := attended.running _ (mem_of_lookup found)
  obtain ⟨⟨_, call⟩, mem, rfl⟩ := List.mem_map.mp registered
  have follows := Dispatch.follows_run h.past
  rw [← sound.dispatch] at follows
  obtain ⟨i, present⟩ := follows.running _ mem running
  refine ⟨i, present, ?_⟩
  simp only [finishing?, found, Option.bind_some, Running.finish?]
  rw [present]
  rfl

theorem launching_of_idle {h : Record} (sound : h.Sound) {n : Nat} {lint : Lint.Pending}
    (waits : (n, .lint lint) ∈ h.live.session.jobs) (idle : h.live.started.lookup n = none) :
  h.live.launching? n = some lint.call
  := by
  apply launching_iff.mpr ⟨idle, _⟩
  rw [Session.callOf?, Session.lookup_of_mem_jobs sound.ready.numbered waits]

/-- The program of a lint has been started: the lints and the other programs are the same,
and its invocation is the newest of its document. -/
structure Starts (h h' : Record) (document : String) (n id : Nat) : Prop where
  sound : h'.Sound
  attended : Attended h'.live.started h'.past
  jobs : h'.live.session.jobs = h.live.session.jobs
  found : h'.live.started.lookup n = some id
  others : ∀ m ≠ n, h'.live.started.lookup m = h.live.started.lookup m
  latest : Latest h'.past (Lint.uniqueKey document) id

theorem starts_of_idle {h : Record} (sound : h.Sound)
    (attended : Attended h.live.started h.past) {n : Nat} {lint : Lint.Pending}
    (waits : (n, .lint lint) ∈ h.live.session.jobs) (idle : h.live.started.lookup n = none)
    (child : Child) :
  Starts h (h.step (.launch n (.ok child))) lint.document.id n h.live.dispatch.next
  := by
  have after := Record.step_launch_ok (launching_of_idle sound waits idle) child
  constructor
  case sound => apply sound.step
  case attended => apply attended.step sound
  case jobs => rw [after]
  case found =>
    rw [after]
    simp [List.lookup_append, idle]
  case others =>
    intro m other
    have passed : (m == n) = false := beq_eq_false_iff_ne.mpr other
    rw [after]
    simp [List.lookup_append, List.lookup_cons, passed]
  case latest =>
    have keyed : lint.call.uniqueKey = some (Lint.uniqueKey lint.document.id) :=
      sound.ready.keyed n lint waits
    rw [after, Dispatch.latest_launched, if_pos keyed, sound.dispatch]

/-- A lint whose program is not running overtakes one whose program is, and makes it end
with nothing. -/
theorem losesTo_of_idle {h : Record} (sound : h.Sound)
    (attended : Attended h.live.started h.past) {m n id : Nat} {earlier lint : Lint.Pending}
    (idle_waits : (m, .lint earlier) ∈ h.live.session.jobs)
    (idle : h.live.started.lookup m = none)
    (waits : (n, .lint lint) ∈ h.live.session.jobs)
    (found : h.live.started.lookup n = some id)
    (same : earlier.document.id = lint.document.id)
    (latest : Latest h.past (Lint.uniqueKey lint.document.id) id) (child : Child) (exit : Exit) :
  LosesTo h.live lint.document.id n m [.launch m (.ok child), .finish n (.exited exit)]
  := by
  have follows := Dispatch.follows_run h.past
  rw [← sound.dispatch] at follows
  have keyed : earlier.call.uniqueKey = some (Lint.uniqueKey lint.document.id) := by
    rw [← same]
    apply sound.ready.keyed m earlier idle_waits
  have launching := launching_of_idle sound idle_waits idle
  have rival : h.live.dispatch.running.rival? earlier.call = some id :=
    (follows.rival_iff ..).mpr
      ⟨_, keyed, latest, (attended.running _ (mem_of_lookup found)).2⟩
  have sound' := sound.step (.launch m (.ok child))
  have attended' := attended.step sound (.launch m (.ok child))
  have after := Record.step_launch_ok launching child
  have found' : (h.step (.launch m (.ok child))).live.started.lookup n = some id := by
    rw [after]
    apply lookup_append_of_some found
  have waits' : (n, .lint lint) ∈ (h.step (.launch m (.ok child))).live.session.jobs := by
    rw [after]
    apply waits
  obtain ⟨i, present, finishing⟩ := exists_finishing sound' attended' found' (.exited exit)
  have overtaken : ¬ Latest (h.step (.launch m (.ok child))).past
      (Lint.uniqueKey lint.document.id) id := by
    rw [after]
    apply sound.not_latest_launched waits (mem_of_lookup found) keyed
  have superseded := (sound'.invocation waits' (mem_of_lookup found') present).2.mpr overtaken
  have reply : i.reply (.exited exit) = .replaced := by
    simp [Invocation.reply, Call.reply, superseded]
  rw [reply] at finishing
  refine ⟨[], child, [], exit, id, rfl, ⟨earlier, idle_waits, same, launching, rival,
    mem_of_lookup found⟩, finishing, ?_⟩
  have ends : (h.live.run [.launch m (.ok child), .finish n (.exited exit)]).session =
      (h.step (.launch m (.ok child))).live.session.answer n .replaced := by
    change ((h.step (.launch m (.ok child))).step (.finish n (.exited exit))).live.session = _
    rw [Record.step_finish finishing]
  have replaced : lint.hear .replaced = .ended (.ok none) := rfl
  rw [ends, answer_of_hear_ended sound'.ready.numbered waits' replaced]
  apply List.mem_append_right _ List.mem_cons_self

theorem LosesTo.prepend {l : Live} {document : String} {n m : Nat} {first steps : List Step}
    (loses : LosesTo (l.run first) document n m steps) :
  LosesTo l document n m (first ++ steps)
  := by
  obtain ⟨before, child, between, exit, id, rfl, overtakes, finishing, ended⟩ := loses
  refine ⟨first ++ before, child, between, exit, id, by simp, ?_, ?_, ?_⟩
  · rw [run_append]
    apply overtakes
  · rw [List.append_assoc, run_append]
    apply finishing
  · rw [run_append]
    apply ended

/-- A lint of an open document that finds the checker busy waits again. -/
theorem jobs_of_hear_busy {s : Session} (ready : Ready s) {task : Nat} {lint : Lint.Pending}
    (waits : (task, .lint lint) ∈ s.jobs) (isOpen : s.package.isOpen lint.document.id = true)
    {reply : Reply} {root : Option Path} (heard : lint.hear reply = .busy root) :
  (s.answer task reply).jobs = (s.forget task).jobs ++ [(task, .lint lint)]
  := by
  have found := Session.lookup_of_mem_jobs ready.numbered waits
  rw [Session.answer, Session.answer_of_busy found heard isOpen ready.silent]
  rfl

/-- A lint has given up its program and waits to call it again, and the other lints and their
programs are the same. -/
structure GivesUp (h h' : Record) (m : Nat) (lint : Lint.Pending) : Prop where
  sound : h'.Sound
  attended : Attended h'.live.started h'.past
  waits : (m, .lint lint) ∈ h'.live.session.jobs
  idle : h'.live.started.lookup m = none
  jobs : ∀ n ≠ m, ∀ job, (n, job) ∈ h.live.session.jobs → (n, job) ∈ h'.live.session.jobs
  others : ∀ n ≠ m, h'.live.started.lookup n = h.live.started.lookup n
  latest : ∀ key id, Latest h.past key id → Latest h'.past key id

/-- A lint whose program is named like a busy checker gives it up when it takes too long. -/
theorem givesUp_of_notice {h : Record} (sound : h.Sound)
    (attended : Attended h.live.started h.past) {m i : Nat} {lint : Lint.Pending}
    (runs : (m, .lint lint) ∈ h.live.session.jobs)
    (carried : h.live.started.lookup m = some i) (notice : Busy.IsNotice lint.call.executable) :
  GivesUp h ((h.step (.host (.opened lint.document.id))).step (.finish m .timedOut)) m lint
  := by
  -- The document is opened, lest the lint ends when it finds the checker busy.
  have opened := h.step_host (.opened lint.document.id)
  have sound' := sound.step (.host (.opened lint.document.id))
  have attended' := attended.step sound (.host (.opened lint.document.id))
  generalize h.step (.host (.opened lint.document.id)) = h' at opened sound' attended' ⊢
  have isOpen : h'.live.session.package.isOpen lint.document.id = true := by
    rw [opened]
    simp [Session.act, Package.opened, isOpen]
  have runs' : (m, .lint lint) ∈ h'.live.session.jobs := by
    rw [opened]
    apply runs
  have carried' : h'.live.started.lookup m = some i := by
    rw [opened]
    apply carried
  obtain ⟨invocation, present, finishing⟩ := exists_finishing sound' attended' carried' .timedOut
  have own := (sound'.invocation runs' (mem_of_lookup carried') present).1
  obtain ⟨root, busy⟩ := lint.hear_timedOut own notice
  have given_up := Record.step_finish finishing
  have jobs : (h'.step (.finish m .timedOut)).live.session.jobs =
      (h'.live.session.forget m).jobs ++ [(m, .lint lint)] := by
    rw [given_up]
    apply jobs_of_hear_busy sound'.ready runs' isOpen busy
  constructor
  case sound => apply sound'.step
  case attended => apply attended'.step sound'
  case waits =>
    rw [jobs]
    apply List.mem_append_right _ List.mem_cons_self
  case idle =>
    rw [given_up, List.lookup_eq_none_iff]
    intro p mem
    have other : p.1 ≠ m := by simpa using (List.mem_filter.mp mem).2
    simpa using other.symm
  case jobs =>
    intro n other job mem
    have mem' : (n, job) ∈ h'.live.session.jobs := by
      rw [opened]
      apply mem
    rw [jobs]
    apply List.mem_append_left
    apply List.mem_filter.mpr ⟨mem', by simpa using other⟩
  case others =>
    intro n other
    rw [given_up, Running.lookup_filter_fst_ne other, opened]
  case latest =>
    intro key id latest
    rw [given_up, Dispatch.latest_of_registered_nil rfl, opened]
    apply latest

/-- A lint whose program runs and is named like a busy checker can give it up, call it again
and overtake another one. -/
theorem losesTo_of_notice {h : Record} (sound : h.Sound)
    (attended : Attended h.live.started h.past) {m n i id : Nat} {earlier lint : Lint.Pending}
    (different : m ≠ n) (runs : (m, .lint earlier) ∈ h.live.session.jobs)
    (carried : h.live.started.lookup m = some i)
    (notice : Busy.IsNotice earlier.call.executable)
    (waits : (n, .lint lint) ∈ h.live.session.jobs)
    (found : h.live.started.lookup n = some id)
    (same : earlier.document.id = lint.document.id)
    (latest : Latest h.past (Lint.uniqueKey lint.document.id) id) (child : Child) (exit : Exit) :
  LosesTo h.live lint.document.id n m
    ([.host (.opened earlier.document.id), .finish m .timedOut] ++
      [.launch m (.ok child), .finish n (.exited exit)])
  := by
  have givesUp := givesUp_of_notice sound attended runs carried notice
  apply LosesTo.prepend
  have waits' := givesUp.jobs n (Ne.symm different) _ waits
  have found' := (givesUp.others n (Ne.symm different)).trans found
  exact losesTo_of_idle givesUp.sound givesUp.attended givesUp.waits givesUp.idle waits' found' same
    (givesUp.latest _ _ latest) child exit

/-- A lint whose program is started wins over all lints of its document that began before
it, whatever happens later, exactly if the programs of these lints run and are not named
like a busy checker. -/
theorem newest_wins_iff (settings : Settings) (tree : FileTree) (timeout : Option Binary64)
    {steps : List Step} {n : Nat} {lint : Lint.Pending}
    (waits : (n, .lint lint) ∈ (record settings tree timeout steps).live.session.jobs)
    (idle : (record settings tree timeout steps).live.started.lookup n = none) (child : Child) :
  (∀ m later, LosesTo ((record settings tree timeout steps).live.step (.launch n (.ok child)))
      lint.document.id n m later → n < m) ↔
    ∀ m < n, ∀ earlier,
      (m, .lint earlier) ∈ (record settings tree timeout steps).live.session.jobs →
        earlier.document.id = lint.document.id →
          (∃ id, (record settings tree timeout steps).live.started.lookup m = some id) ∧
            ¬ Busy.IsNotice earlier.call.executable
  := by
  have sound := sound_record settings tree timeout steps
  have attended := attended_record settings tree timeout steps
  generalize record settings tree timeout steps = h at waits idle sound attended ⊢
  constructor
  · intro wins m before earlier waits' same
    have starts := starts_of_idle sound attended waits idle child
    have other := starts.others m (Nat.ne_of_lt before)
    rw [← starts.jobs] at waits waits'
    have exit : Exit := ⟨0, [], []⟩
    by_contra idle_or_notice
    apply Nat.lt_asymm before
    rcases found : h.live.started.lookup m with _ | i
    · rw [found] at other
      apply wins m _ (losesTo_of_idle starts.sound starts.attended waits' other waits starts.found
        same starts.latest child exit)
    · have notice : Busy.IsNotice earlier.call.executable := by
        by_contra plain
        apply idle_or_notice ⟨⟨i, found⟩, plain⟩
      rw [found] at other
      apply wins m _ (losesTo_of_notice starts.sound starts.attended (Nat.ne_of_lt before) waits'
        other notice waits starts.found same starts.latest child exit)
  · intro run m later loses
    apply (Behind.launch sound waits (launching_of_idle sound waits idle) run
      child).lt_of_losesTo _ loses
    apply sound.step

/-! ### A lint that calls again

A lint finds the checker busy, and another one of the same document begins before it has
called again. -/

/-- How the program of a busy checker ends: it writes `flow is` where it complains. -/
def busyExit : Exit := ⟨0, [], [102, 108, 111, 119, 32, 105, 115]⟩

theorem verdict_busyExit (c : Call) :
  c.verdict busyExit =
    .failed (.fault (.invocation c.command (some 0) (some "") (some "flow is")))
  := by
  have said : Text.decodeDropping busyExit.stderr = "flow is" := by
    simp [busyExit, Text.decodeDropping, Text.decodeParts, Text.decodeNext]
  have written : Text.decodeDropping busyExit.stdout = "" := by
    simp [busyExit, Text.decodeDropping, Text.decodeParts]
  have blank : Text.isAllBlank "" = true := by decide +kernel
  have words : Text.isAllBlank "flow is" = false := by decide +kernel
  simp only [Call.verdict, said, written, blank, words]
  rfl

theorem hear_busyExit (lint : Lint.Pending) :
  lint.hear (lint.call.verdict busyExit) = .busy none
  := by
  have message : (Fault.invocation lint.call.command (some 0) (some "") (some "flow is")).message =
      "flow is" := by
    have stripped : Text.strip "flow is" = "flow is" := by decide +kernel
    have spoken : (Text.strip "flow is").isEmpty = false := by
      rw [stripped]
      decide +kernel
    unfold Fault.message
    simp only [Option.getD_some, spoken]
    apply stripped
  have busy : Busy.isTransient "flow is" = true := by decide
  have starting : Busy.isServerStarting "flow is" = false := by decide
  rw [verdict_busyExit]
  simp only [Lint.Pending.hear, Request.hear, message, busy, starting]
  rfl

/-- A session in which nothing has happened that concerns the document of the sample. -/
structure Untouched (s : Session) : Prop where
  package : s.package = .ofSettings Session.sampleSettings
  tree : s.tree = ⟨[], []⟩
  timeout : s.timeout = none
  replies : s.replies = []
  forgetful : s.memo.find? ⟨"/", Locator.projectMarker⟩ = none ∨
    s.memo.find? ⟨"/", Locator.projectMarker⟩ = some none

theorem Untouched.lint {s : Session} (untouched : Untouched s) :
  ∃ (lint : Lint.Pending) (s' : Session), s.lint Session.sampleDocument = s' ∧ Untouched s' ∧
    lint.document.id = "a" ∧ s'.jobs = s.jobs ++ [(s.next, .lint lint)] ∧ s'.next = s.next + 1
  := by
  obtain ⟨lint, memo, begun, same, remembered⟩ := Session.begin_sample_of none "a" false
    untouched.forgetful
  have begun' : Lint.begin s.package.settings s.timeout s.tree s.memo Session.sampleDocument =
      (.calls lint, memo) := by
    rw [untouched.package, untouched.timeout, untouched.tree]
    apply begun
  refine ⟨lint, _, (Session.lint_calls begun').1, ?_⟩
  rw [untouched.replies, Session.converse]
  exact ⟨⟨untouched.package, untouched.tree, untouched.timeout, rfl, Or.inr remembered⟩, same, rfl,
    rfl⟩

theorem Untouched.again {s : Session} (untouched : Untouched s) {lint : Lint.Pending}
    (jobs : s.jobs = [(0, .lint lint)]) :
  ∃ s', s.answer 0 (lint.call.verdict busyExit) = s' ∧ Untouched s' ∧
    s'.jobs = [(0, .lint lint)] ∧ s'.next = s.next
  := by
  have isOpen : s.package.isOpen lint.document.id = true := by
    rw [untouched.package]
    rfl
  have found : s.jobs.lookup 0 = some (.lint lint) := by rw [jobs]; rfl
  have answered := Session.answer_of_busy found (hear_busyExit lint) isOpen untouched.replies
  have alone : (s.forget 0).jobs = [] := by simp [Session.forget, jobs]
  refine ⟨_, rfl, ?_⟩
  rw [Session.answer, answered]
  exact ⟨⟨untouched.package, untouched.tree, untouched.timeout, rfl, untouched.forgetful⟩,
    congrArg (· ++ [(0, Job.lint lint)]) alone, rfl⟩

/-- A program of which nothing needs to be known. -/
def sampleChild : Child := ⟨⟨0, [], []⟩, 0, [], []⟩

/-- What happens before the program of the second lint is started. -/
def sampleSteps : List Step :=
  [.host (.lint Session.sampleDocument), .launch 0 (.ok sampleChild), .finish 0 (.exited busyExit),
    .host (.lint Session.sampleDocument)]

/-- Both lints wait, and no program runs. -/
theorem record_sample :
  ∃ first second : Lint.Pending, first.document.id = "a" ∧ second.document.id = "a" ∧
    (record Session.sampleSettings ⟨[], []⟩ none sampleSteps).live.session.jobs =
      [(0, .lint first), (1, .lint second)] ∧
    (record Session.sampleSettings ⟨[], []⟩ none sampleSteps).live.started = []
  := by
  have untouched : Untouched (.start Session.sampleSettings ⟨[], []⟩ none) :=
    ⟨rfl, rfl, rfl, rfl, Or.inl rfl⟩
  obtain ⟨first, s₁, lints, untouched, same, jobs, next⟩ := untouched.lint
  obtain ⟨s₂, again, untouched, jobs', next'⟩ := untouched.again jobs
  obtain ⟨second, s₃, lints', -, same', jobs'', -⟩ := untouched.lint
  have launching : Live.launching? { session := s₁ } 0 = some first.call := by
    simp [launching?, Session.callOf?, jobs, Session.start]
  have steps : record Session.sampleSettings ⟨[], []⟩ none sampleSteps =
      (((({ live := { session := .start Session.sampleSettings ⟨[], []⟩ none } } : Record).step
        (.host (.lint Session.sampleDocument))).step (.launch 0 (.ok sampleChild))).step
          (.finish 0 (.exited busyExit))).step (.host (.lint Session.sampleDocument)) := rfl
  have begun :
      ({ live := { session := .start Session.sampleSettings ⟨[], []⟩ none } } : Record).step
        (.host (.lint Session.sampleDocument)) = { live := { session := s₁ } } := by
    rw [Record.step_host]
    simp only [Session.act, lints]
  have found : (Running.empty.register 0 first.call).find? 0 = some ⟨0, first.call, false⟩ := by
    rw [Running.find?_register _ _ _ rfl]
    rfl
  have finishing : ((({ live := { session := s₁ } } : Record).step
      (.launch 0 (.ok sampleChild))).live.finishing? 0 (.exited busyExit)) =
        some (0, first.call.verdict busyExit) := by
    rw [Record.step_launch_ok launching]
    simp [finishing?, Dispatch.launch, Running.finish?, found, Invocation.reply, Call.reply]
  rw [begun, Record.step_finish finishing, Record.step_launch_ok launching] at steps
  refine ⟨first, second, same, same', ?_⟩
  rw [steps, Record.step_host]
  simp only [again, Session.act, lints', jobs'', jobs', next', next]
  exact ⟨rfl, rfl⟩

/-- The second lint wins if the program of the first one runs, and it does not. -/
theorem newest_wins_iff_sample :
  ∃ second, (1, .lint second) ∈
      (record Session.sampleSettings ⟨[], []⟩ none sampleSteps).live.session.jobs ∧
    (record Session.sampleSettings ⟨[], []⟩ none sampleSteps).live.started.lookup 1 = none ∧
    ((∀ m later, LosesTo ((record Session.sampleSettings ⟨[], []⟩ none sampleSteps).live.step
        (.launch 1 (.ok sampleChild))) second.document.id 1 m later → 1 < m) ↔
      ∀ m < 1, ∀ earlier,
        (m, .lint earlier) ∈
            (record Session.sampleSettings ⟨[], []⟩ none sampleSteps).live.session.jobs →
          earlier.document.id = second.document.id →
            (∃ id, (record Session.sampleSettings ⟨[], []⟩ none sampleSteps).live.started.lookup m =
                some id) ∧
              ¬ Busy.IsNotice earlier.call.executable)
  := by
  obtain ⟨first, second, -, -, jobs, started⟩ := record_sample
  have waits : (1, .lint second) ∈
      (record Session.sampleSettings ⟨[], []⟩ none sampleSteps).live.session.jobs := by simp [jobs]
  have idle : (record Session.sampleSettings ⟨[], []⟩ none sampleSteps).live.started.lookup 1 =
      none := by simp [started]
  exact ⟨second, waits, idle, newest_wins_iff Session.sampleSettings ⟨[], []⟩ none waits idle _⟩

/-- The program of the second lint is started, and then the first lint calls again: the
second one ends with nothing when its program ends. -/
theorem second_loses_to_first :
  LosesTo ((record Session.sampleSettings ⟨[], []⟩ none sampleSteps).live.step
    (.launch 1 (.ok sampleChild))) "a" 1 0
    [.launch 0 (.ok sampleChild), .finish 1 (.exited ⟨0, [], []⟩)]
  := by
  obtain ⟨first, second, own, own', jobs, started⟩ := record_sample
  have sound := sound_record Session.sampleSettings ⟨[], []⟩ none sampleSteps
  have attended := attended_record Session.sampleSettings ⟨[], []⟩ none sampleSteps
  generalize record Session.sampleSettings ⟨[], []⟩ none sampleSteps = h at *
  have waits : (1, .lint second) ∈ h.live.session.jobs := by simp [jobs]
  have waits' : (0, .lint first) ∈ h.live.session.jobs := by simp [jobs]
  have starts := starts_of_idle sound attended waits (by simp [started]) sampleChild
  have idle : (h.step (.launch 1 (.ok sampleChild))).live.started.lookup 0 = none := by
    rw [starts.others 0 Nat.zero_ne_one, started]
    rfl
  rw [← starts.jobs] at waits waits'
  rw [← own']
  exact losesTo_of_idle starts.sound starts.attended waits' idle waits starts.found
    (own.trans own'.symm) starts.latest sampleChild ⟨0, [], []⟩

end Package.Live

end TypeCoverage
