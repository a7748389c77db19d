import TypeCoverage.Proofs.Invocation.Succession
import TypeCoverage.Proofs.Package.Provenance
import TypeCoverage.Proofs.Package.Tasks

/-!
# Lints whose calls are carried out side by side

In a `Package.Live` the calls of a session are carried out as invocations: a call that
waits gets as far as its program, and when the wait for the program ends, the task hears
the reply of the invocation at once.  Between these two, anything else may happen to the
host and to other calls.  A task that is cancelled is one whose program is not started, or
whose wait ends, because of that.

Lints of one document call the checker under one key, so that an invocation that has been
overtaken brings no report.  Hence the reports of a document reach the cache in the order in
which their invocations were registered (`Live.inOrder`), however many lints of it run and
call again.
-/

namespace TypeCoverage.Package

/-- The call with which a task waits. -/
def Session.callOf? (s : Session) (task : Nat) : Option Call :=
  match s.jobs.lookup task with
  | some (.lint lint) => some lint.call
  | some (.stop _ call) => some call
  | _ => none

/-- Lets a task hear a reply, if it waits for one. -/
def Session.answer (s : Session) (task : Nat) (reply : Reply) : Session :=
  (s.answer? task reply).getD s

/-- A session with the invocations that carry out its calls. -/
structure Live where
  session : Session
  dispatch : Dispatch := {}
  /-- The tasks whose programs run, with the numbers of the invocations. -/
  started : List (Nat × Nat) := []

namespace Live

/-- What happens to a live session. -/
inductive Step where
  | host (action : Action)
  /-- The call of a task gets as far as its program. -/
  | launch (task : Nat) (spawned : Except Failure Child)
  /-- The wait for the program of a task ends. -/
  | finish (task : Nat) (outcome : Outcome)

/-- The call of a task, if it waits and is not being carried out. -/
def launching? (l : Live) (task : Nat) : Option Call :=
  if (l.started.lookup task).isSome then none else l.session.callOf? task

theorem launching_iff {l : Live} {task : Nat} {call : Call} :
  l.launching? task = some call ↔
    l.started.lookup task = none ∧ l.session.callOf? task = some call
  := by
  rw [launching?]
  cases l.started.lookup task <;> simp

/-- The invocation for a task and its reply, when the wait for the program ends. -/
def finishing? (l : Live) (task : Nat) (outcome : Outcome) : Option (Nat × Reply) :=
  (l.started.lookup task).bind fun id =>
    (l.dispatch.running.finish? id outcome).map fun (reply, _) => (id, reply)

/-- A live session after a step. -/
def step (l : Live) : Step → Live
  | .host action => { l with session := l.session.act action }
  | .launch task spawned =>
    match l.launching? task, spawned with
    | none, _ => l
    | some call, .error why =>
      { l with
        session := l.session.answer task (.failed why)
        dispatch := l.dispatch.launch call (.error why) }
    | some call, .ok child =>
      { l with
        dispatch := l.dispatch.launch call (.ok child)
        started := l.started ++ [(task, l.dispatch.next)] }
  | .finish task outcome =>
    match l.finishing? task outcome with
    | none => l
    | some (id, reply) =>
      { session := l.session.answer task reply
        dispatch := l.dispatch.finish id outcome
        started := l.started.filter (·.1 ≠ task) }

/-- What a step does to the invocations. -/
def eventsOf (l : Live) : Step → List Dispatch.Event
  | .host _ => []
  | .launch task spawned => (l.launching? task).toList.map (.launched · spawned)
  | .finish task outcome => (l.finishing? task outcome).toList.map fun (id, _) => .ended id outcome

/-- A report that has reached the cache, with the invocation that produced it. -/
structure Stored where
  invocation : Nat
  document : String
  report : Report

/-- The report that reaches the cache when a task hears the reply of an invocation. -/
def storedBy (s : Session) (task id : Nat) (reply : Reply) : List Stored :=
  match s.jobs.lookup task, reply.report? with
  | some (.lint lint), some r =>
    if s.package.isOpen lint.document.id then [⟨id, lint.document.id, r⟩] else []
  | _, _ => []

/-- The reports that reach the cache in a step. -/
def storedIn (l : Live) : Step → List Stored
  | .finish task outcome =>
    match l.finishing? task outcome with
    | some (id, reply) => storedBy l.session task id reply
    | none => []
  | _ => []

/-- A live session with all that has happened to the invocations, and the reports that have
reached the cache. -/
structure Record where
  live : Live
  past : List Dispatch.Event := []
  stored : List Stored := []

/-- A record after one step more. -/
def Record.step (h : Record) (next : Step) : Record where
  live := h.live.step next
  past := h.past ++ h.live.eventsOf next
  stored := h.stored ++ h.live.storedIn next

/-- The record of some steps, beginning with a session in which nothing has happened. -/
def record (settings : Settings) (tree : FileTree) (timeout : Option Binary64)
    (steps : List Step) : Record :=
  steps.foldl Record.step { live := { session := .start settings tree timeout } }

/-- The invocations whose reports of a document have reached the cache, in this order. -/
def Record.storedFor (h : Record) (document : String) : List Nat :=
  (h.stored.filter (·.document = document)).map (·.invocation)

namespace Record

variable {h : Record} {task : Nat}

theorem step_host (h : Record) (action : Action) :
  h.step (.host action) =
    { h with live := { h.live with session := h.live.session.act action } }
  := by
  simp [step, Live.step, eventsOf, storedIn]

/-- A task whose call is being carried out, or that does not call, starts no program. -/
theorem step_launch_of_none (waits : h.live.launching? task = none)
    (spawned : Except Failure Child) :
  h.step (.launch task spawned) = h
  := by
  simp [step, Live.step, eventsOf, storedIn, waits]

theorem step_launch_error {call : Call} (waits : h.live.launching? task = some call)
    (why : Failure) :
  h.step (.launch task (.error why)) =
    { h with
      live := { h.live with
        session := h.live.session.answer task (.failed why)
        dispatch := h.live.dispatch.launch call (.error why) }
      past := h.past ++ [.launched call (.error why)] }
  := by
  simp [step, Live.step, eventsOf, storedIn, waits]

theorem step_launch_ok {call : Call} (waits : h.live.launching? task = some call)
    (child : Child) :
  h.step (.launch task (.ok child)) =
    { h with
      live := { h.live with
        dispatch := h.live.dispatch.launch call (.ok child)
        started := h.live.started ++ [(task, h.live.dispatch.next)] }
      past := h.past ++ [.launched call (.ok child)] }
  := by
  simp [step, Live.step, eventsOf, storedIn, waits]

/-- A task for which no program runs does not end its wait. -/
theorem step_finish_of_none {outcome : Outcome}
    (finishing : h.live.finishing? task outcome = none) :
  h.step (.finish task outcome) = h
  := by
  simp [step, Live.step, eventsOf, storedIn, finishing]

theorem step_finish {outcome : Outcome} {id : Nat} {reply : Reply}
    (finishing : h.live.finishing? task outcome = some (id, reply)) :
  h.step (.finish task outcome) =
    { live :=
        { session := h.live.session.answer task reply
          dispatch := h.live.dispatch.finish id outcome
          started := h.live.started.filter (·.1 ≠ task) }
      past := h.past ++ [.ended id outcome]
      stored := h.stored ++ storedBy h.live.session task id reply }
  := by
  simp [step, Live.step, eventsOf, storedIn, finishing]

end Record

/-! ### Lists that follow one another -/

theorem sublist_of_not_mem {l l' : List Nat} {x : Nat} (sub : l.Sublist (l' ++ [x]))
    (absent : x ∉ l) :
  l.Sublist l'
  := by
  obtain ⟨first, second, rfl, before, after⟩ := List.sublist_append_iff.mp sub
  cases second with
  | nil => simpa using before
  | cons y second =>
    obtain rfl : y = x := List.mem_singleton.mp (after.subset List.mem_cons_self)
    simp at absent

/-- The last element may be put behind a part of a list that does not have it. -/
theorem concat_sublist {l l' : List Nat} {x : Nat} (sub : l.Sublist l')
    (last : l'.getLast? = some x) (absent : x ∉ l) :
  (l ++ [x]).Sublist l'
  := by
  obtain ⟨init, rfl⟩ := List.getLast?_eq_some_iff.mp last
  apply List.Sublist.append (sublist_of_not_mem sub absent) (List.Sublist.refl _)

/-! ### The invariant -/

/-- Of an invocation that brings a report, no later one with its key has been registered. -/
theorem latest_of_report {past : List Dispatch.Event} {id : Nat} {i : Invocation}
    (found : (Dispatch.run past).running.find? id = some i) {outcome : Outcome} {r : Report}
    (brings : (i.reply outcome).report? = some r) {key : String}
    (own : i.call.uniqueKey = some key) :
  Dispatch.Latest past key id
  := by
  by_contra overtaken
  have superseded : i.superseded = true :=
    ((Dispatch.follows_run past).mark id i found).mpr ⟨key, own, overtaken⟩
  cases reply : i.reply outcome with
  | output text => exact ((i.answers_reply outcome).1 superseded).1 text reply
  | replaced => simp [reply, Reply.report?] at brings
  | failed why => simp [reply, Reply.report?] at brings

/-- A session whose tasks are told apart, whose replies all come from invocations, and whose
lints call the checker under the keys of their documents. -/
structure Ready (s : Session) : Prop where
  numbered : s.tasks.Numbered
  silent : s.replies = []
  keyed : ∀ n lint, (n, .lint lint) ∈ s.jobs → lint.IsKeyed

theorem Ready.continues {s s' : Session} (ready : Ready s) (continues : s.tasks.Continues s'.tasks)
    (fewer : s'.replies ⊆ s.replies) :
  Ready s'
  where
  numbered := continues.numbered ready.numbered
  silent := by
    rw [ready.silent] at fewer
    apply List.subset_nil.mp fewer
  keyed n lint mem := by
    rcases continues.lints n lint mem with old | ⟨-, keyed⟩
    · apply ready.keyed n lint old
    · apply keyed

theorem Ready.start (settings : Settings) (tree : FileTree) (timeout : Option Binary64) :
  Ready (.start settings tree timeout)
  where
  numbered := Session.numbered_start ..
  silent := rfl
  keyed n lint mem := by contradiction

/-- The invocations that are running for tasks; that for a lint is the one that the call of
the lint has led to. -/
structure Linked (s : Session) (started : List (Nat × Nat)) (past : List Dispatch.Event) :
    Prop where
  below : ∀ p ∈ started, p.1 < s.next
  calls : ∀ p ∈ started, ∀ lint, (p.1, .lint lint) ∈ s.jobs →
    (p.2, lint.call) ∈ Dispatch.registrations past

namespace Linked

variable {s s' : Session} {started started' : List (Nat × Nat)} {past past' : List Dispatch.Event}

theorem continues (h : Linked s started past) (continues : s.tasks.Continues s'.tasks) :
  Linked s' started past
  where
  below p mem := Nat.lt_of_lt_of_le (h.below p mem) continues.next
  calls p mem lint waits := by
    rcases continues.lints p.1 lint waits with old | ⟨new, -⟩
    · apply h.calls p mem lint old
    · exact absurd (h.below p mem) (Nat.not_lt_of_le new)

theorem mono (h : Linked s started past) (fewer : started' ⊆ started)
    (more : Dispatch.registrations past ⊆ Dispatch.registrations past') :
  Linked s started' past'
  where
  below p mem := h.below p (fewer mem)
  calls p mem lint waits := more (h.calls p (fewer mem) lint waits)

/-- The program of a call is started. -/
theorem add (h : Linked s started past) (ready : Ready s) {task id : Nat} {call : Call}
    (waits : s.callOf? task = some call) (mem : (id, call) ∈ Dispatch.registrations past) :
  Linked s (started ++ [(task, id)]) past
  := by
  obtain ⟨job, found⟩ : ∃ job, s.jobs.lookup task = some job := by
    rw [Session.callOf?] at waits
    split at waits
    · next lint found => exact ⟨_, found⟩
    · next stop call found => exact ⟨_, found⟩
    · contradiction
  have runs := Session.mem_jobs_of_lookup found
  constructor
  · intro p started
    rcases List.mem_append.mp started with old | new
    · apply h.below p old
    · rw [List.mem_singleton.mp new]
      apply ready.numbered.below task
      apply List.mem_append_left _ (List.mem_map.mpr ⟨_, runs, rfl⟩)
  · intro p started lint lints
    rcases List.mem_append.mp started with old | new
    · apply h.calls p old lint lints
    · obtain rfl := List.mem_singleton.mp new
      obtain rfl := Session.job_unique ready.numbered runs lints
      simp only [Session.callOf?, found, Option.some.injEq] at waits
      rw [waits]
      apply mem

end Linked

/-- When the wait for a program ends, its invocation was running and is answered. -/
theorem finishing_running {l : Live} {task id : Nat} {outcome : Outcome} {reply : Reply}
    (finishing : l.finishing? task outcome = some (id, reply)) :
  (task, id) ∈ l.started ∧
    ∃ i, l.dispatch.running.find? id = some i ∧ reply = i.reply outcome
  := by
  obtain ⟨id', found, finished⟩ := Option.bind_eq_some_iff.mp finishing
  obtain ⟨⟨reply', running⟩, ended, same⟩ := Option.map_eq_some_iff.mp finished
  obtain ⟨rfl, rfl⟩ := Prod.mk.inj same
  obtain ⟨i, present, answer⟩ := Option.map_eq_some_iff.mp ended
  obtain ⟨before, after, started, -⟩ := List.lookup_eq_some_iff.mp found
  constructor
  · rw [started]
    apply List.mem_append_right _ List.mem_cons_self
  · exact ⟨i, present, (Prod.mk.inj answer).1.symm⟩

/-- A reply stores a report of an open document, or nothing. -/
theorem storedBy_cases (s : Session) (task id : Nat) (reply : Reply) :
  storedBy s task id reply = [] ∨
    ∃ lint r, s.jobs.lookup task = some (.lint lint) ∧ reply.report? = some r ∧
      s.package.isOpen lint.document.id = true ∧
        storedBy s task id reply = [⟨id, lint.document.id, r⟩]
  := by
  rw [storedBy]
  split
  · next lint r waits brings =>
    split
    · next isOpen => exact Or.inr ⟨lint, r, waits, brings, isOpen, rfl⟩
    · apply Or.inl rfl
  · apply Or.inl rfl

theorem invocation_of_storedBy {s : Session} {task id : Nat} {reply : Reply} {x : Stored}
    (mem : x ∈ storedBy s task id reply) :
  x.invocation = id
  := by
  rcases storedBy_cases s task id reply with none | ⟨lint, r, -, -, -, stores⟩
  · simp [none] at mem
  · rw [stores, List.mem_singleton] at mem
    rw [mem]

theorem report_of_storedBy {s : Session} {task id : Nat} {reply : Reply} {x : Stored}
    (mem : x ∈ storedBy s task id reply) :
  reply.report? = some x.report
  := by
  rcases storedBy_cases s task id reply with none | ⟨lint, r, -, brings, -, stores⟩
  · simp [none] at mem
  · rw [stores, List.mem_singleton] at mem
    rw [mem]
    apply brings

theorem replied_of_finishing {l : Live} {task id : Nat} {outcome : Outcome} {reply : Reply}
    (finishing : l.finishing? task outcome = some (id, reply)) :
  (id, reply) ∈ (l.dispatch.finish id outcome).replies
  := by
  obtain ⟨-, i, found, rfl⟩ := finishing_running finishing
  simp [Dispatch.finish, Running.finish?, found]

/-- What holds of every record. -/
structure Record.Sound (h : Record) : Prop where
  dispatch : h.live.dispatch = Dispatch.run h.past
  ready : Ready h.live.session
  linked : Linked h.live.session h.live.started h.past
  ended : ∀ x ∈ h.stored, Dispatch.Ended h.past x.invocation
  replied : ∀ x ∈ h.stored, ∃ reply, (x.invocation, reply) ∈ h.live.dispatch.replies ∧
    reply.report? = some x.report
  ordered : ∀ d, (h.storedFor d).Sublist (Dispatch.registeredUnder (Lint.uniqueKey d) h.past)

theorem continues_answer (s : Session) (task : Nat) (reply : Reply) :
  s.tasks.Continues (s.answer task reply).tasks
  := by
  rw [Session.answer]
  cases answered : s.answer? task reply with
  | none => apply Session.Tasks.Continues.refl
  | some s' => apply Session.Tasks.Continues.answer answered

theorem replies_answer (s : Session) (task : Nat) (reply : Reply) :
  (s.answer task reply).replies ⊆ s.replies
  := by
  rw [Session.answer]
  cases answered : s.answer? task reply with
  | none => apply List.Subset.refl
  | some s' => apply Session.replies_answer answered

namespace Record.Sound

variable {h : Record}

/-- What has been stored stays in order when an event adds to what has happened. -/
theorem extend (sound : h.Sound) (event : Dispatch.Event) :
  (∀ x ∈ h.stored, Dispatch.Ended (h.past ++ [event]) x.invocation) ∧
    (∀ x ∈ h.stored, ∃ reply, (x.invocation, reply) ∈ (h.live.dispatch.step event).replies ∧
      reply.report? = some x.report) ∧
    ∀ d, (h.storedFor d).Sublist
      (Dispatch.registeredUnder (Lint.uniqueKey d) (h.past ++ [event]))
  := by
  constructor
  · intro x mem
    apply (Dispatch.ended_concat ..).mpr (Or.inl (sound.ended x mem))
  constructor
  · intro x mem
    obtain ⟨reply, replied, brings⟩ := sound.replied x mem
    exact ⟨reply, Dispatch.replies_subset_step _ _ replied, brings⟩
  · intro d
    rw [Dispatch.registeredUnder_concat]
    apply (sound.ordered d).trans (List.sublist_append_left ..)

theorem host (sound : h.Sound) (action : Action) :
  (h.step (.host action)).Sound
  := by
  have continues := Session.Tasks.Continues.act h.live.session action
  rw [step_host]
  constructor
  · apply sound.dispatch
  · apply sound.ready.continues continues (Session.replies_act ..)
  · apply sound.linked.continues continues
  · apply sound.ended
  · apply sound.replied
  · apply sound.ordered

theorem launch (sound : h.Sound) (task : Nat) (spawned : Except Failure Child) :
  (h.step (.launch task spawned)).Sound
  := by
  cases waits : h.live.launching? task with
  | none =>
    rw [step_launch_of_none waits]
    apply sound
  | some call =>
    obtain ⟨ended, replied, ordered⟩ := sound.extend (.launched call spawned)
    have more := Dispatch.registrations_subset_concat h.past (.launched call spawned)
    have linked := sound.linked.mono (List.Subset.refl _) more
    cases spawned with
    | error why =>
      have continues := continues_answer h.live.session task (.failed why)
      rw [step_launch_error waits]
      constructor
      · rw [Dispatch.run_concat, ← sound.dispatch]
        rfl
      · apply sound.ready.continues continues (replies_answer ..)
      · apply linked.continues continues
      · apply ended
      · apply replied
      · apply ordered
    | ok child =>
      have called := (launching_iff.mp waits).2
      rw [step_launch_ok waits]
      constructor
      · rw [Dispatch.run_concat, ← sound.dispatch]
        rfl
      · apply sound.ready
      · apply linked.add sound.ready called
        rw [Dispatch.registrations_concat, sound.dispatch]
        apply List.mem_append_right _ List.mem_cons_self
      · apply ended
      · apply replied
      · apply ordered

theorem registered (sound : h.Sound) {task id : Nat} {outcome : Outcome} {reply : Reply}
    (finishing : h.live.finishing? task outcome = some (id, reply)) :
  id ∈ (Dispatch.registrations h.past).map (·.1)
  := by
  obtain ⟨-, i, found, -⟩ := finishing_running finishing
  rw [sound.dispatch] at found
  obtain ⟨-, registered, -⟩ := (Dispatch.follows_run h.past).found id i found
  apply List.mem_map.mpr ⟨_, registered, rfl⟩

/-- The invocation whose report a lint hears is the one that was registered most recently for
the document, and no report of it has been stored. -/
theorem latest (sound : h.Sound) {task id : Nat} {outcome : Outcome} {reply : Reply}
    (finishing : h.live.finishing? task outcome = some (id, reply)) {lint : Lint.Pending}
    (waits : h.live.session.jobs.lookup task = some (.lint lint)) {r : Report}
    (brings : reply.report? = some r) :
  Dispatch.Latest h.past (Lint.uniqueKey lint.document.id) id ∧
    ∀ d, id ∉ h.storedFor d
  := by
  have follows := Dispatch.follows_run h.past
  obtain ⟨started, i, found, rfl⟩ := finishing_running finishing
  rw [sound.dispatch] at found
  obtain ⟨-, registered, running⟩ := follows.found id i found
  have lints := Session.mem_jobs_of_lookup waits
  have called := sound.linked.calls _ started lint lints
  have own : i.call.uniqueKey = some (Lint.uniqueKey lint.document.id) := by
    rw [follows.call_unique registered called]
    apply sound.ready.keyed task lint lints
  constructor
  · apply latest_of_report found brings own
  · intro d mem
    obtain ⟨x, stored, rfl⟩ := List.mem_map.mp mem
    apply running (sound.ended x (List.mem_filter.mp stored).1)

theorem finish (sound : h.Sound) (task : Nat) (outcome : Outcome) :
  (h.step (.finish task outcome)).Sound
  := by
  cases finishing : h.live.finishing? task outcome with
  | none =>
    rw [step_finish_of_none finishing]
    apply sound
  | some answer =>
    obtain ⟨id, reply⟩ := answer
    obtain ⟨ended, replied, ordered⟩ := sound.extend (.ended id outcome)
    have more := Dispatch.registrations_subset_concat h.past (.ended id outcome)
    have continues := continues_answer h.live.session task reply
    rw [step_finish finishing]
    constructor
    · rw [Dispatch.run_concat, ← sound.dispatch]
      rfl
    · apply sound.ready.continues continues (replies_answer ..)
    · apply (sound.linked.mono _ more).continues continues
      apply List.filter_subset_self
    · intro x mem
      rcases List.mem_append.mp mem with old | new
      · apply ended x old
      · rw [invocation_of_storedBy new]
        apply (Dispatch.ended_concat ..).mpr
        apply Or.inr ⟨⟨outcome, rfl⟩, sound.registered finishing⟩
    · intro x mem
      rcases List.mem_append.mp mem with old | new
      · apply replied x old
      · refine ⟨reply, ?_, report_of_storedBy new⟩
        rw [invocation_of_storedBy new]
        apply replied_of_finishing finishing
    · intro d
      -- A new report is that of the last invocation registered for its document, and so it
      -- may follow all that have been stored.
      rcases storedBy_cases h.live.session task id reply with
        none | ⟨lint, r, waits, brings, -, stores⟩
      · simpa [storedFor, none] using ordered d
      · obtain ⟨latest, absent⟩ := sound.latest finishing waits brings
        by_cases own : lint.document.id = d
        · have latest : Dispatch.Latest (h.past ++ [.ended id outcome]) (Lint.uniqueKey d) id := by
            rw [Dispatch.latest_of_registered_nil rfl, ← own]
            apply latest
          simpa [storedFor, stores, own] using concat_sublist (ordered d) latest (absent d)
        · simpa [storedFor, stores, own] using ordered d

/-- Every step keeps a record sound. -/
theorem step (sound : h.Sound) (next : Step) :
  (h.step next).Sound
  := by
  cases next with
  | host action => apply sound.host
  | launch task spawned => apply sound.launch
  | finish task outcome => apply sound.finish

end Record.Sound

theorem record_concat (settings : Settings) (tree : FileTree) (timeout : Option Binary64)
    (steps : List Step) (next : Step) :
  record settings tree timeout (steps ++ [next]) = (record settings tree timeout steps).step next
  := List.foldl_append

theorem sound_record (settings : Settings) (tree : FileTree) (timeout : Option Binary64)
    (steps : List Step) :
  (record settings tree timeout steps).Sound
  := by
  induction steps using List.reverseRecOn with
  | nil =>
    constructor
    · rfl
    · apply Ready.start
    · exact ⟨by simp [record], by simp [record]⟩
    · simp [record]
    · simp [record]
    · simp [record, Record.storedFor]
  | append_singleton steps next ih =>
    rw [record_concat]
    apply ih.step

/-! ### What is cached -/

/-- What becomes of the entry of a document, and which reports are stored with it. -/
def Shows (d : String) (before after : Cache) (stored : List Stored) : Prop :=
  (∃ x, (stored.filter (·.document = d)).getLast? = some x ∧ after.get (some d) = some x.report) ∨
    stored.filter (·.document = d) = [] ∧
      ∀ r, after.get (some d) = some r → before.get (some d) = some r

theorem shows_same (d : String) (cache : Cache) :
  Shows d cache cache []
  := Or.inr ⟨rfl, fun _ cached => cached⟩

/-- Without replies, entries are only dropped. -/
theorem get_afterAll_of_not_heard {p : Package} {happenings : List Happening}
    (quiet : ∀ task lint reply, .heard task lint reply ∉ happenings) {d : String} {r : Report}
    (cached : (p.afterAll happenings).cache.get (some d) = some r) :
  p.cache.get (some d) = some r
  := by
  induction happenings generalizing p with
  | nil => apply cached
  | cons h happenings ih =>
    have later : (p.after h).ledger.cache.get (some d) = some r := by
      apply ih _ cached
      intro task lint reply mem
      apply quiet task lint reply (List.mem_cons_of_mem _ mem)
    rw [ledger_after] at later
    rcases (Ledger.get_after ..).mp later with ⟨⟨task, lint, reply, rfl, -⟩, -⟩ | ⟨-, -, before⟩
    · exact absurd List.mem_cons_self (quiet task lint reply)
    · apply before

theorem shows_act {s : Session} (silent : s.replies = []) (action : Action) (d : String) :
  Shows d s.package.cache (s.act action).package.cache []
  := by
  refine Or.inr ⟨rfl, ?_⟩
  intro r cached
  rw [Session.package_act] at cached
  apply get_afterAll_of_not_heard _ cached
  intro task lint reply mem
  have brought : reply ∈ s.replies ++ (Operation.host action).replies :=
    Session.reply_of_happens mem
  rw [silent] at brought
  contradiction

/-- What a package makes of the reply that a lint hears. -/
theorem shows_heard {s : Session} {task : Nat} {lint : Lint.Pending}
    (waits : s.jobs.lookup task = some (.lint lint)) (id : Nat) (reply : Reply) (d : String) :
  Shows d s.package.cache (s.package.after (.heard task lint reply)).cache
    (storedBy s task id reply)
  := by
  change Shows d s.package.ledger.cache (s.package.after (.heard task lint reply)).ledger.cache _
  rw [ledger_after]
  simp only [storedBy, waits, Ledger.after]
  cases brings : reply.report? with
  | none => apply shows_same
  | some r =>
    simp only [Ledger.take, ← isOpen_iff, ← ite_not (lint.document.id ∈ _)]
    cases isOpen : s.package.isOpen lint.document.id with
    | false => apply shows_same
    | true =>
      by_cases own : lint.document.id = d
      · apply Or.inl
        simp [own, Cache.get_set]
      · apply Or.inr
        simp [own, Cache.get_set, Ne.symm own]

theorem heardBy_singleton (p : Package) (task : Nat) (lint : Lint.Pending) (reply : Reply) :
  Session.heardBy p task lint [reply] = [.heard task lint reply]
  := by
  rw [Session.heardBy]
  rcases p.hearReply lint reply with ⟨p, events, result | _⟩ <;> rfl

/-- A task that does not lint stores nothing. -/
theorem shows_nothing {s s' : Session} {task : Nat} (same : s'.package.cache = s.package.cache)
    (other : ∀ lint, s.jobs.lookup task ≠ some (.lint lint)) (id : Nat) (reply : Reply)
    (d : String) :
  Shows d s.package.cache s'.package.cache (storedBy s task id reply)
  := by
  rcases storedBy_cases s task id reply with none | ⟨lint, r, waits, -⟩
  · rw [none, same]
    apply shows_same
  · exact absurd waits (other lint)

theorem shows_answer {s : Session} (silent : s.replies = []) (task id : Nat) (reply : Reply)
    (d : String) :
  Shows d s.package.cache (s.answer task reply).package.cache (storedBy s task id reply)
  := by
  rcases waits : s.jobs.lookup task with _ | ⟨lint | ⟨stop, call⟩ | stops⟩
  · apply shows_nothing
    · simp [Session.answer, Session.answer?, waits]
    · simp [waits]
  · have answered : s.answer? task reply = some ((s.forget task).hear task lint reply) := by
      simp [Session.answer?, waits]
    have heard : (s.answer task reply).package = s.package.after (.heard task lint reply) := by
      rw [Session.answer, answered, Option.getD_some, Session.package_answer answered]
      simp only [Session.heardInReply, waits, silent, heardBy_singleton]
      rfl
    rw [heard]
    apply shows_heard waits
  · apply shows_nothing
    · simp [Session.answer, Session.answer?, waits, Session.finishStop, Session.forget]
    · simp [waits]
  · apply shows_nothing
    · simp [Session.answer, Session.answer?, waits]
    · simp [waits]

theorem shows_step {l : Live} (ready : Ready l.session) (next : Step) (d : String) :
  Shows d l.session.package.cache (l.step next).session.package.cache (l.storedIn next)
  := by
  cases next with
  | host action => apply shows_act ready.silent
  | launch task spawned =>
    cases waits : l.launching? task with
    | none =>
      simp only [step, storedIn, waits]
      apply shows_same
    | some call =>
      cases spawned with
      | error why =>
        have shows := shows_answer ready.silent task l.dispatch.next (.failed why) d
        simp only [step, storedIn, waits]
        rcases storedBy_cases l.session task l.dispatch.next (.failed why) with
          none | ⟨lint, r, -, brings, -⟩
        · rw [none] at shows
          apply shows
        · simp [Reply.report?] at brings
      | ok child =>
        simp only [step, storedIn, waits]
        apply shows_same
  | finish task outcome =>
    simp only [step, storedIn]
    cases finishing : l.finishing? task outcome with
    | none => apply shows_same
    | some answer => apply shows_answer ready.silent

/-! ### The order of reports -/

/-- Reports reach the cache in the order in which the invocations were registered that
produced them. -/
structure Record.InOrder (h : Record) : Prop where
  /-- The invocations are those of the events. -/
  dispatch : h.live.dispatch = Dispatch.run h.past
  /-- A stored report is in the reply of an invocation for its document that has ended. -/
  produced : ∀ x ∈ h.stored,
    x.invocation ∈ Dispatch.registeredUnder (Lint.uniqueKey x.document) h.past ∧
      Dispatch.Ended h.past x.invocation ∧
        ∃ reply, (x.invocation, reply) ∈ h.live.dispatch.replies ∧ reply.report? = some x.report
  /-- The cached report of a document is the one that was stored for it last. -/
  shown : ∀ d r, h.live.session.package.cache.get (some d) = some r →
    ∃ x, (h.stored.filter (·.document = d)).getLast? = some x ∧ x.report = r
  /-- The invocations whose reports are stored for a document come one after another among
  those that are registered for it. -/
  ordered : ∀ d, (h.storedFor d).Sublist (Dispatch.registeredUnder (Lint.uniqueKey d) h.past)
  /-- No report is stored after that of an invocation which was registered later. -/
  fresh : ∀ d i j, [i, j].Sublist (Dispatch.registeredUnder (Lint.uniqueKey d) h.past) →
    ¬ [j, i].Sublist (h.storedFor d)

theorem shown_record (settings : Settings) (tree : FileTree) (timeout : Option Binary64)
    (steps : List Step) {d : String} {r : Report}
    (cached : (record settings tree timeout steps).live.session.package.cache.get (some d) = some r) :
  ∃ x, ((record settings tree timeout steps).stored.filter (·.document = d)).getLast? = some x ∧
    x.report = r
  := by
  induction steps using List.reverseRecOn with
  | nil => contradiction
  | append_singleton steps next ih =>
    rw [record_concat] at cached ⊢
    simp only [Record.step, List.filter_append] at cached ⊢
    rcases shows_step (sound_record settings tree timeout steps).ready next d with
      ⟨x, last, shown⟩ | ⟨none, kept⟩
    · refine ⟨x, ?_, Option.some.inj (shown.symm.trans cached)⟩
      rw [List.getLast?_append, last]
      rfl
    · rw [none, List.append_nil]
      apply ih (kept r cached)

/-- In every run of any number of lints and of their invocations, reports reach the cache in
order. -/
theorem inOrder (settings : Settings) (tree : FileTree) (timeout : Option Binary64)
    (steps : List Step) :
  (record settings tree timeout steps).InOrder
  := by
  have sound := sound_record settings tree timeout steps
  constructor
  · apply sound.dispatch
  · intro x mem
    refine ⟨?_, sound.ended x mem, sound.replied x mem⟩
    apply (sound.ordered x.document).subset
    apply List.mem_map.mpr ⟨x, by simpa using mem, rfl⟩
  · intro d r cached
    apply shown_record settings tree timeout steps cached
  · apply sound.ordered
  · intro d i j registered stored
    have increasing := Dispatch.increasing_registeredUnder (Lint.uniqueKey d)
      (record settings tree timeout steps).past
    have first := List.pairwise_pair.mp (increasing.sublist registered)
    have second := List.pairwise_pair.mp (increasing.sublist (stored.trans (sound.ordered d)))
    apply Nat.lt_asymm first second

end Live

end TypeCoverage.Package
