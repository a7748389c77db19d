import Mathlib.Tactic.Use
import TypeCoverage.Package.Session
import TypeCoverage.Proofs.Package.Happening

/-!
# Runs of a session

An `Action` is what a host does to a session.  An `Operation` is an action, or something
that the world around does to the tasks: it answers a call that waits, gets replies ready,
or cancels a task.  A run carries out operations in any order, so that any number of lints
wait, are answered and are overtaken side by side.

What a run does to the package is its `history`, a list of happenings
(`Session.package_run`).  Whatever is proved of all happenings in all orders is thereby
proved of all runs.
-/

namespace TypeCoverage.Package

/-- What a host does to a session. -/
inductive Action where
  /-- The host, or a fresh one, is attached. -/
  | activate (fresh : Bool)
  | deactivate (stopServers : Bool)
  | takeTile (surface : Tile)
  | activeChanged (document : Option String)
  | opened (document : String)
  | closed (document : String)
  /-- The host changes the document that it calls active, without saying so. -/
  | focus (document : Option Document)
  | set (name : String) (value : Datum)
  | replace (values : Members)
  | click
  | press (index : Nat)
  | dismiss (index : Nat)
  | lint (document : Document)
  | waitPending
  | changeTree (tree : FileTree)
  | clearMemo

/-- What is done to a session. -/
inductive Operation where
  | host (action : Action)
  /-- The call at a place among those that wait is answered. -/
  | respond (index : Nat) (reply : Reply)
  | queue (replies : List Reply)
  | cancel (task : Nat)

/-- The replies that an operation brings in. -/
def Operation.replies : Operation → List Reply
  | .respond _ reply => [reply]
  | .queue replies => replies
  | _ => []

namespace Session

/-- A session in which nothing has happened. -/
def start (settings : Settings) (tree : FileTree) (timeout : Option Binary64) : Session :=
  { package := .ofSettings settings, tree := tree, timeout := timeout }

/-- A session after an action of the host. -/
def act (s : Session) : Action → Session
  | .activate fresh => if fresh then s.newHost.activate else s.activate
  | .deactivate stopServers => s.deactivate stopServers
  | .takeTile surface => (s.commitEffect (s.package.consumeStatusBar surface)).1
  | .activeChanged document => (s.commitEffect (s.package.activeChanged document)).1
  | .opened document => { s with package := s.package.opened document }
  | .closed document => (s.commitEffect (s.package.closedDocument document)).1
  | .focus document => { s with focus := document }
  | .set name value => (s.commitEffect (s.package.set s.focus name value)).1
  | .replace values => (s.commitEffect (s.package.replace s.focus values)).1
  | .click => s.click?.getD s
  | .press index => (s.press? index).getD s
  | .dismiss index => (s.dismiss? index).getD s
  | .lint document => s.lint document
  | .waitPending => s.waitPending
  | .changeTree tree => { s with tree := tree }
  | .clearMemo => { s with memo := .empty }

/-- A session after an operation. -/
def perform (s : Session) : Operation → Session
  | .host action => s.act action
  | .respond index reply => (s.respond? index reply).getD s
  | .queue replies => { s with replies := s.replies ++ replies }
  | .cancel task => (s.cancel? task).getD s

/-- A session after some operations. -/
def run (s : Session) (operations : List Operation) : Session := operations.foldl perform s

/-! ### Histories -/

/-- What a lint of a package hears, of replies that lie ready, until it ends or waits. -/
def heardBy (p : Package) (task : Nat) (lint : Lint.Pending) : List Reply → List Happening
  | [] => []
  | reply :: replies =>
    .heard task lint reply ::
      match p.hearReply lint reply with
      | (p, _, .again) => heardBy p task lint replies
      | (_, _, .ended _) => []

/-- The result of a lint of a package that hears replies that lie ready, unless it waits
for another one. -/
def endedBy (p : Package) (lint : Lint.Pending) : List Reply → Option Lint.Result
  | [] => none
  | reply :: replies =>
    match p.hearReply lint reply with
    | (p, _, .again) => endedBy p lint replies
    | (_, _, .ended result) => some result

/-- What a lint of a document hears at once. -/
def heardAtOnce (s : Session) (document : Document) : List Happening :=
  match Lint.begin s.package.settings s.timeout s.tree s.memo document with
  | (.ended _, _) => []
  | (.calls lint, _) => heardBy s.package s.next lint s.replies

/-- The stop tasks that finish at once when the host is detached: those for which a reply
lies ready. -/
def stoppedAtOnce (s : Session) (stopServers : Bool) : List StopTask :=
  (s.package.deactivate stopServers).2.2.take s.replies.length

/-- What happens to the package when the host acts. -/
def happeningsOf (s : Session) : Action → List Happening
  | .activate fresh => [.activated (if fresh then none else s.focus)]
  | .deactivate stopServers =>
    .deactivated stopServers :: (s.stoppedAtOnce stopServers).map fun t => .stopFinished t.id
  | .takeTile surface => [.tileTaken surface]
  | .activeChanged document => [.activeChanged document]
  | .opened document => [.opened document]
  | .closed document => [.closed document]
  | .set name value => [.set s.focus name value]
  | .replace values => [.replaced s.focus values]
  | .click => if s.package.attached then [.clicked s.focus] else []
  | .dismiss index => if index < s.notifications then [.dismissed] else []
  | .lint document => s.heardAtOnce document
  | .focus _ | .press _ | .waitPending | .changeTree _ | .clearMemo => []

/-- What happens to the package when a task that waits is answered. -/
def heardInReply (s : Session) (task : Nat) (reply : Reply) : List Happening :=
  match s.jobs.lookup task with
  | some (.lint lint) => heardBy s.package task lint (reply :: s.replies)
  | some (.stop task _) => [.stopFinished task]
  | _ => []

/-- What happens to the package when a task is cancelled. -/
def stoppedBy (s : Session) (task : Nat) : List Happening :=
  match s.jobs.lookup task with
  | some (.await tasks) => tasks.map .stopFinished
  | _ => []

/-- What happens to the package in an operation. -/
def happenings (s : Session) : Operation → List Happening
  | .host action => s.happeningsOf action
  | .respond index reply =>
    match s.waiting[index]? with
    | some task => s.heardInReply task reply
    | none => []
  | .queue _ => []
  | .cancel task => s.stoppedBy task

/-- What happens to the package in some operations. -/
def history (s : Session) : List Operation → List Happening
  | [] => []
  | operation :: operations => s.happenings operation ++ (s.perform operation).history operations

theorem history_append (s : Session) (first second : List Operation) :
  s.history (first ++ second) = s.history first ++ (s.run first).history second
  := by
  induction first generalizing s with
  | nil => rfl
  | cons operation first ih =>
    rw [List.cons_append, history, history, ih, List.append_assoc]
    rfl

theorem run_concat (s : Session) (operations : List Operation) (operation : Operation) :
  s.run (operations ++ [operation]) = (s.run operations).perform operation
  := by
  rw [run, List.foldl_append]
  rfl

theorem history_concat (s : Session) (operations : List Operation) (operation : Operation) :
  s.history (operations ++ [operation]) =
    s.history operations ++ (s.run operations).happenings operation
  := by
  rw [history_append, history, history, List.append_nil]

/-! ### What tasks do -/

theorem afterAll_append (p : Package) (first second : List Happening) :
  p.afterAll (first ++ second) = (p.afterAll first).afterAll second
  := List.foldl_append

/-- The tasks of a session. -/
structure Tasks where
  waiting : List Nat
  jobs : List (Nat × Job)
  next : Nat
  ended : List (Nat × Lint.Result)

/-- The tasks of a session. -/
def tasks (s : Session) : Tasks := ⟨s.waiting, s.jobs, s.next, s.ended⟩

/-- A lint ends with its result, or waits for another reply. -/
def conclude (s : Session) (task : Nat) (lint : Lint.Pending) : Option Lint.Result → Session
  | some result => s.endTask task result
  | none => s.wait task (.lint lint)

theorem package_conclude (s : Session) (task : Nat) (lint : Lint.Pending)
    (result : Option Lint.Result) :
  (s.conclude task lint result).package = s.package
  := by
  cases result <;> rfl

theorem replies_conclude (s : Session) (task : Nat) (lint : Lint.Pending)
    (result : Option Lint.Result) :
  (s.conclude task lint result).replies = s.replies
  := by
  cases result <;> rfl

/-- A lint that takes a reply calls the checker and hears the reply. -/
theorem converse_cons (s : Session) (task : Nat) (lint : Lint.Pending) (reply : Reply)
    (replies : List Reply) :
  s.converse task lint (reply :: replies) =
    ({ s with replies := replies }.emit [.call lint.call]).hear task lint reply
  := by
  rw [converse, hear]
  simp only
  split <;> rfl

/-- A lint hears replies one after another and then ends or waits; meanwhile only the
package and what the host sees have changed. -/
theorem hear_eq (s : Session) (task : Nat) (lint : Lint.Pending) (reply : Reply) :
  ∃ s' : Session, s'.tasks = s.tasks ∧ s'.replies ⊆ s.replies ∧
    s'.package = s.package.afterAll (heardBy s.package task lint (reply :: s.replies)) ∧
    s.hear task lint reply = s'.conclude task lint (endedBy s.package lint (reply :: s.replies))
  := by
  -- A reply that finds the checker busy makes the lint take the next one that lies ready.
  generalize ready : s.replies = replies
  induction replies generalizing s reply with
  | nil =>
    rcases heard : s.package.hearReply lint reply with ⟨p, events, result | _⟩
    · use s.commit (p, events)
      simp [hear, heardBy, endedBy, heard, conclude, afterAll, after, commit, emit, tasks, ready]
    · use { s.commit (p, events) with replies := [] }.emit [.call lint.call]
      simp [hear, heardBy, endedBy, heard, conclude, afterAll, after, commit, emit, tasks, ready,
        converse]
  | cons next replies ih =>
    rcases heard : s.package.hearReply lint reply with ⟨p, events, result | _⟩
    · use s.commit (p, events)
      simp [hear, heardBy, endedBy, heard, conclude, afterAll, after, commit, emit, tasks, ready]
    · obtain ⟨s', same, fewer, package, concluded⟩ :=
        ih ({ s.commit (p, events) with replies := replies }.emit [.call lint.call]) next rfl
      use s'
      refine ⟨same, List.Subset.trans fewer (List.subset_cons_self ..), ?_, ?_⟩
      · rw [package]
        simp [heardBy, heard, afterAll, after, commit, emit]
      · rw [hear, heard]
        simp only
        rw [show (s.commit (p, events)).replies = next :: replies from ready, converse_cons,
          concluded]
        simp [endedBy, heard, commit, emit]

theorem converse_eq (s : Session) (task : Nat) (lint : Lint.Pending) (replies : List Reply) :
  ∃ s' : Session, s'.tasks = s.tasks ∧ s'.replies ⊆ replies ∧
    s'.package = s.package.afterAll (heardBy s.package task lint replies) ∧
    s.converse task lint replies = s'.conclude task lint (endedBy s.package lint replies)
  := by
  cases replies with
  | nil =>
    use { s with replies := [] }.emit [.call lint.call]
    exact ⟨rfl, List.Subset.refl _, rfl, rfl⟩
  | cons reply replies =>
    obtain ⟨s', same, fewer, package, concluded⟩ :=
      hear_eq ({ s with replies := replies }.emit [.call lint.call]) task lint reply
    use s'
    refine ⟨same, List.Subset.trans fewer (List.subset_cons_self ..), package, ?_⟩
    rw [converse_cons, concluded]
    rfl

/-- A lint that ends at once, without a call of the checker. -/
theorem lint_ended {s : Session} {document : Document} {result : Lint.Result} {memo : Memo}
    (begun : Lint.begin s.package.settings s.timeout s.tree s.memo document =
      (.ended result, memo)) :
  s.lint document = { s with next := s.next + 1, memo := memo }.endTask s.next result ∧
    s.heardAtOnce document = []
  := by
  simp only [lint, heardAtOnce, begun]
  trivial

/-- A lint that calls the checker. -/
theorem lint_calls {s : Session} {document : Document} {lint : Lint.Pending} {memo : Memo}
    (begun : Lint.begin s.package.settings s.timeout s.tree s.memo document =
      (.calls lint, memo)) :
  s.lint document = { s with next := s.next + 1, memo := memo }.converse s.next lint s.replies ∧
    s.heardAtOnce document = heardBy s.package s.next lint s.replies
  := by
  simp only [Session.lint, heardAtOnce, begun]
  trivial

/-- A lint ends without a call of the checker, or hears what lies ready. -/
theorem lint_cases (s : Session) (document : Document) :
  (∃ result memo,
    Lint.begin s.package.settings s.timeout s.tree s.memo document = (.ended result, memo) ∧
      s.lint document = { s with next := s.next + 1, memo := memo }.endTask s.next result ∧
        s.heardAtOnce document = []) ∨
    ∃ lint memo, ∃ s' : Session,
      Lint.begin s.package.settings s.timeout s.tree s.memo document = (.calls lint, memo) ∧
        s'.tasks = { s.tasks with next := s.next + 1 } ∧ s'.replies ⊆ s.replies ∧
          s'.package = s.package.afterAll (s.heardAtOnce document) ∧
            s.lint document = s'.conclude s.next lint (endedBy s.package lint s.replies)
  := by
  rcases begun : Lint.begin s.package.settings s.timeout s.tree s.memo document with
    ⟨result | lint, memo⟩
  · apply Or.inl
    exact ⟨result, memo, rfl, lint_ended begun⟩
  · apply Or.inr
    rw [(lint_calls begun).1, (lint_calls begun).2]
    obtain ⟨s', heard⟩ := converse_eq { s with next := s.next + 1, memo := memo } s.next lint
      s.replies
    exact ⟨lint, memo, s', rfl, heard⟩

/-- A task that is answered lints and hears the reply, or is a stop task and finishes. -/
theorem answer_cases {s s' : Session} {task : Nat} {reply : Reply}
    (answered : s.answer? task reply = some s') :
  (∃ lint, ∃ s'' : Session, s.jobs.lookup task = some (.lint lint) ∧
    s''.tasks = (s.forget task).tasks ∧ s''.replies ⊆ s.replies ∧
      s''.package = s.package.afterAll (s.heardInReply task reply) ∧
        s' = s''.conclude task lint (endedBy s.package lint (reply :: s.replies))) ∨
    ∃ stop call, s.jobs.lookup task = some (.stop stop call) ∧
      s' = (s.forget task).finishStop stop ∧ s.heardInReply task reply = [.stopFinished stop]
  := by
  rcases found : s.jobs.lookup task with _ | ⟨lint | ⟨stop, call⟩ | stops⟩
  · simp [answer?, found] at answered
  · apply Or.inl
    simp only [answer?, heardInReply, found, Option.some.injEq] at answered ⊢
    obtain ⟨s'', same, fewer, package, concluded⟩ := hear_eq (s.forget task) task lint reply
    rw [concluded] at answered
    exact ⟨lint, s'', rfl, same, fewer, package, answered.symm⟩
  · apply Or.inr
    simp only [answer?, heardInReply, found, Option.some.injEq] at answered ⊢
    exact ⟨stop, call, rfl, answered.symm, rfl⟩
  · simp [answer?, found] at answered

/-- A task that is cancelled lints, or waits for stop tasks and takes them with it. -/
theorem cancel_cases {s s' : Session} {task : Nat} (cancelled : s.cancel? task = some s') :
  (∃ lint, s.jobs.lookup task = some (.lint lint) ∧
    s' = (s.forget task).endTask task (.error .cancelled) ∧ s.stoppedBy task = []) ∨
    ∃ stops, s.jobs.lookup task = some (.await stops) ∧
      s' = (stops.foldl cancelStop (s.forget task)).endTask task (.error .cancelled) ∧
        s.stoppedBy task = stops.map .stopFinished
  := by
  rcases found : s.jobs.lookup task with _ | ⟨lint | ⟨stop, call⟩ | stops⟩
  · simp [cancel?, found] at cancelled
  · apply Or.inl
    simp only [cancel?, stoppedBy, found, Option.some.injEq] at cancelled ⊢
    exact ⟨lint, rfl, cancelled.symm, trivial⟩
  · simp [cancel?, found] at cancelled
  · apply Or.inr
    simp only [cancel?, stoppedBy, found, Option.some.injEq] at cancelled ⊢
    exact ⟨stops, rfl, cancelled.symm, rfl⟩

/-- Where no task can be answered, nothing happens. -/
theorem respond_cases (s : Session) (index : Nat) (reply : Reply) :
  (s.perform (.respond index reply) = s ∧ s.happenings (.respond index reply) = []) ∨
    ∃ task, s.waiting[index]? = some task ∧
      s.answer? task reply = some (s.perform (.respond index reply)) ∧
        s.happenings (.respond index reply) = s.heardInReply task reply
  := by
  simp only [perform, respond?, happenings]
  rcases waits : s.waiting[index]? with _ | task
  · apply Or.inl ⟨rfl, rfl⟩
  · rcases answered : s.answer? task reply with _ | s'
    · apply Or.inl
      rcases found : s.jobs.lookup task with _ | ⟨lint | ⟨stop, call⟩ | stops⟩
      · simp [answered, heardInReply, found]
      · simp [answer?, found] at answered
      · simp [answer?, found] at answered
      · simp [answered, heardInReply, found]
    · apply Or.inr
      exact ⟨task, rfl, by simp [answered], rfl⟩

/-- Where no task can be cancelled, nothing happens. -/
theorem perform_cancel_cases (s : Session) (task : Nat) :
  (s.perform (.cancel task) = s ∧ s.happenings (.cancel task) = []) ∨
    s.cancel? task = some (s.perform (.cancel task))
  := by
  simp only [perform, happenings]
  rcases cancelled : s.cancel? task with _ | s'
  · apply Or.inl
    rcases found : s.jobs.lookup task with _ | ⟨lint | ⟨stop, call⟩ | stops⟩
    · simp [stoppedBy, found]
    · simp [cancel?, found] at cancelled
    · simp [stoppedBy, found]
    · simp [cancel?, found] at cancelled
  · apply Or.inr rfl

/-! ### What happens to the package -/

theorem package_lint (s : Session) (document : Document) :
  (s.lint document).package = s.package.afterAll (s.heardAtOnce document)
  := by
  rcases s.lint_cases document with ⟨_, _, -, ended, nothing⟩ | ⟨_, _, s', -, -, -, package, heard⟩
  · rw [ended, nothing]
    rfl
  · rw [heard, package_conclude, package]

theorem package_runStops (configured : String) (s : Session) (tasks : List StopTask) :
  (tasks.foldl (runStop configured) s).package =
    s.package.afterAll ((tasks.take s.replies.length).map fun t => .stopFinished t.id)
  := by
  induction tasks generalizing s with
  | nil => simp [afterAll]
  | cons task tasks ih =>
    rw [List.foldl_cons, ih]
    rw [runStop]
    cases replies : s.replies with
    | nil => simp [emit, wait, afterAll]
    | cons reply replies => simp [emit, finishStop, afterAll, after]

theorem package_deactivate (s : Session) (stopServers : Bool) :
  (s.deactivate stopServers).package =
    s.package.afterAll (s.happeningsOf (.deactivate stopServers))
  := package_runStops ..

/-- Tasks that are forgotten leave the package and the replies as they are. -/
theorem forgetAll_eq (s : Session) (tasks : List Nat) :
  (tasks.foldl forget s).package = s.package ∧ (tasks.foldl forget s).replies = s.replies
  := by
  induction tasks generalizing s with
  | nil => exact ⟨rfl, rfl⟩
  | cons task tasks ih => apply ih

theorem package_cancelStops (s : Session) (stops : List Nat) :
  (stops.foldl cancelStop s).package = s.package.afterAll (stops.map .stopFinished)
  := by
  induction stops generalizing s with
  | nil => rfl
  | cons stop stops ih =>
    have stopped : (s.cancelStop stop).package = s.package.after (.stopFinished stop) := by
      simp only [cancelStop, finishStop, forgetAll_eq, after]
    rw [List.foldl_cons, ih, stopped]
    rfl

theorem package_act (s : Session) (action : Action) :
  (s.act action).package = s.package.afterAll (s.happeningsOf action)
  := by
  cases action with
  | activate fresh => cases fresh <;> rfl
  | deactivate stopServers => apply package_deactivate
  | lint document => apply package_lint
  | click => simp only [act, click?, happeningsOf]; split <;> rfl
  | press index => simp only [act, press?, happeningsOf]; split <;> rfl
  | dismiss index => simp only [act, dismiss?, happeningsOf]; split <;> rfl
  | waitPending => simp only [act, waitPending]; split <;> rfl
  | _ => rfl

theorem package_answer {s s' : Session} {task : Nat} {reply : Reply}
    (answered : s.answer? task reply = some s') :
  s'.package = s.package.afterAll (s.heardInReply task reply)
  := by
  rcases answer_cases answered with ⟨_, _, -, -, -, package, rfl⟩ | ⟨_, _, -, rfl, finished⟩
  · rw [package_conclude, package]
  · rw [finished]
    rfl

theorem package_cancel {s s' : Session} {task : Nat} (cancelled : s.cancel? task = some s') :
  s'.package = s.package.afterAll (s.stoppedBy task)
  := by
  rcases cancel_cases cancelled with ⟨_, -, rfl, nothing⟩ | ⟨stops, -, rfl, stopped⟩
  · rw [nothing]
    rfl
  · rw [stopped]
    apply package_cancelStops

theorem package_perform (s : Session) (operation : Operation) :
  (s.perform operation).package = s.package.afterAll (s.happenings operation)
  := by
  cases operation with
  | host action => apply package_act
  | respond index reply =>
    rcases s.respond_cases index reply with ⟨same, nothing⟩ | ⟨task, -, answered, heard⟩
    · rw [same, nothing]
      rfl
    · rw [heard]
      apply package_answer answered
  | queue replies => rfl
  | cancel task =>
    rcases s.perform_cancel_cases task with ⟨same, nothing⟩ | cancelled
    · rw [same, nothing]
      rfl
    · apply package_cancel cancelled

/-- The package after a run is the package after the history of the run. -/
theorem package_run (s : Session) (operations : List Operation) :
  (s.run operations).package = s.package.afterAll (s.history operations)
  := by
  induction operations generalizing s with
  | nil => rfl
  | cons operation operations ih =>
    rw [history, afterAll_append, ← package_perform, ← ih]
    rfl

/-! ### Where replies come from -/

theorem replies_lint (s : Session) (document : Document) :
  (s.lint document).replies ⊆ s.replies
  := by
  rcases s.lint_cases document with ⟨_, _, -, ended, -⟩ | ⟨_, _, s', -, -, fewer, -, heard⟩
  · rw [ended]
    apply List.Subset.refl
  · rw [heard, replies_conclude]
    apply fewer

theorem replies_runStops (configured : String) (s : Session) (tasks : List StopTask) :
  (tasks.foldl (runStop configured) s).replies ⊆ s.replies
  := by
  induction tasks generalizing s with
  | nil => apply List.Subset.refl
  | cons task tasks ih =>
    apply List.Subset.trans (ih _)
    rw [runStop]
    cases replies : s.replies with
    | nil => simp [emit, wait]
    | cons reply replies => simp [emit, finishStop]

theorem replies_cancelStops (s : Session) (stops : List Nat) :
  (stops.foldl cancelStop s).replies = s.replies
  := by
  induction stops generalizing s with
  | nil => rfl
  | cons stop stops ih =>
    rw [List.foldl_cons, ih]
    simp only [cancelStop, finishStop, forgetAll_eq]

theorem replies_act (s : Session) (action : Action) :
  (s.act action).replies ⊆ s.replies
  := by
  cases action with
  | activate fresh => cases fresh <;> apply List.Subset.refl
  | deactivate stopServers => apply replies_runStops
  | lint document => apply replies_lint
  | click => simp only [act, click?]; split <;> apply List.Subset.refl
  | press index => simp only [act, press?]; split <;> apply List.Subset.refl
  | dismiss index => simp only [act, dismiss?]; split <;> apply List.Subset.refl
  | waitPending => simp only [act, waitPending]; split <;> apply List.Subset.refl
  | _ => apply List.Subset.refl

theorem replies_answer {s s' : Session} {task : Nat} {reply : Reply}
    (answered : s.answer? task reply = some s') :
  s'.replies ⊆ s.replies
  := by
  rcases answer_cases answered with ⟨_, _, -, -, fewer, -, rfl⟩ | ⟨_, _, -, rfl, -⟩
  · rw [replies_conclude]
    apply fewer
  · apply List.Subset.refl

theorem replies_cancel {s s' : Session} {task : Nat} (cancelled : s.cancel? task = some s') :
  s'.replies = s.replies
  := by
  rcases cancel_cases cancelled with ⟨_, -, rfl, -⟩ | ⟨stops, -, rfl, -⟩
  · rfl
  · apply replies_cancelStops

/-- The replies that lie ready were brought in. -/
theorem replies_perform (s : Session) (operation : Operation) :
  (s.perform operation).replies ⊆ s.replies ++ operation.replies
  := by
  cases operation with
  | host action => apply List.subset_append_of_subset_left _ (replies_act s action)
  | respond index reply =>
    apply List.subset_append_of_subset_left
    rcases s.respond_cases index reply with ⟨same, -⟩ | ⟨task, -, answered, -⟩
    · rw [same]
      apply List.Subset.refl
    · apply replies_answer answered
  | queue replies => apply List.Subset.refl
  | cancel task =>
    apply List.subset_append_of_subset_left
    rcases s.perform_cancel_cases task with ⟨same, -⟩ | cancelled
    · rw [same]
      apply List.Subset.refl
    · rw [replies_cancel cancelled]
      apply List.Subset.refl

theorem mem_heardBy {p : Package} {task : Nat} {lint : Lint.Pending} {replies : List Reply}
    {h : Happening} (mem : h ∈ heardBy p task lint replies) :
  ∃ reply ∈ replies, h = .heard task lint reply
  := by
  induction replies generalizing p with
  | nil => contradiction
  | cons reply replies ih =>
    rw [heardBy] at mem
    rcases List.mem_cons.mp mem with rfl | mem
    · exact ⟨reply, List.mem_cons_self, rfl⟩
    · rcases heard : p.hearReply lint reply with ⟨p, events, result | _⟩
      · simp [heard] at mem
      · rw [heard] at mem
        obtain ⟨later, mem, same⟩ := ih mem
        exact ⟨later, List.mem_cons_of_mem _ mem, same⟩

/-- A lint hears replies when it begins, or when it has waited and is answered. -/
theorem heard_cases {s : Session} {operation : Operation} {task : Nat} {lint : Lint.Pending}
    {reply : Reply} (mem : .heard task lint reply ∈ s.happenings operation) :
  (∃ document memo, operation = .host (.lint document) ∧ task = s.next ∧
    Lint.begin s.package.settings s.timeout s.tree s.memo document = (.calls lint, memo)) ∨
  ∃ index first, operation = .respond index first ∧ s.waiting[index]? = some task ∧
    s.jobs.lookup task = some (.lint lint)
  := by
  cases operation with
  | host action =>
    cases action with
    | lint document =>
      simp only [happenings, happeningsOf, heardAtOnce] at mem
      split at mem
      · contradiction
      · next memo begun =>
        obtain ⟨_, -, same⟩ := mem_heardBy mem
        obtain ⟨rfl, rfl, -⟩ := Happening.heard.inj same
        apply Or.inl ⟨document, memo, rfl, rfl, begun⟩
    | click => simp only [happenings, happeningsOf] at mem; split at mem <;> simp at mem
    | dismiss index => simp only [happenings, happeningsOf] at mem; split at mem <;> simp at mem
    | _ => simp [happenings, happeningsOf] at mem
  | respond index first =>
    simp only [happenings, heardInReply] at mem
    split at mem
    · next waits =>
      split at mem
      · next found =>
        obtain ⟨_, -, same⟩ := mem_heardBy mem
        obtain ⟨rfl, rfl, -⟩ := Happening.heard.inj same
        apply Or.inr ⟨index, first, rfl, waits, found⟩
      · simp at mem
      · contradiction
    · contradiction
  | queue replies => contradiction
  | cancel task =>
    simp only [happenings, stoppedBy] at mem
    split at mem
    · simp at mem
    · contradiction

/-- An operation in which a lint hears replies does nothing else to the package; after it
the lint has ended or waits. -/
theorem heard_conclude {s : Session} {operation : Operation} {task : Nat} {lint : Lint.Pending}
    {reply : Reply} (mem : .heard task lint reply ∈ s.happenings operation) :
  ∃ replies s', replies ⊆ s.replies ++ operation.replies ∧
    s.happenings operation = heardBy s.package task lint replies ∧
    s.perform operation = conclude s' task lint (endedBy s.package lint replies)
  := by
  rcases heard_cases mem with ⟨document, memo, rfl, rfl, begun⟩ | ⟨index, first, rfl, waits, found⟩
  · obtain ⟨s', -, -, -, concluded⟩ := converse_eq { s with next := s.next + 1, memo := memo }
      s.next lint s.replies
    refine ⟨s.replies, s', List.subset_append_left .., (lint_calls begun).2, ?_⟩
    apply (lint_calls begun).1.trans concluded
  · obtain ⟨s', -, -, -, concluded⟩ := hear_eq (s.forget task) task lint first
    refine ⟨first :: s.replies, s', ?_, ?_, ?_⟩
    · intro reply mem
      rw [List.mem_append, Operation.replies, List.mem_singleton, or_comm]
      apply List.mem_cons.mp mem
    · simp only [happenings, heardInReply, waits, found]
    · simp only [perform, respond?, waits, answer?, found, Option.bind_some, Option.getD_some]
      apply concluded

/-- A reply that is heard in an operation was brought in. -/
theorem reply_of_happens {s : Session} {operation : Operation} {task : Nat}
    {lint : Lint.Pending} {reply : Reply}
    (mem : .heard task lint reply ∈ s.happenings operation) :
  reply ∈ s.replies ++ operation.replies
  := by
  obtain ⟨replies, -, brought, same, -⟩ := heard_conclude mem
  rw [same] at mem
  obtain ⟨_, mem, same⟩ := mem_heardBy mem
  obtain ⟨-, -, rfl⟩ := Happening.heard.inj same
  apply brought mem

/-- A reply that is heard in a run lay ready before it or was brought in by it. -/
theorem reply_of_history {s : Session} {operations : List Operation} {task : Nat}
    {lint : Lint.Pending} {reply : Reply}
    (mem : .heard task lint reply ∈ s.history operations) :
  reply ∈ s.replies ∨ ∃ operation ∈ operations, reply ∈ operation.replies
  := by
  induction operations generalizing s with
  | nil => contradiction
  | cons operation operations ih =>
    rcases List.mem_append.mp mem with now | later
    · rcases List.mem_append.mp (reply_of_happens now) with ready | brought
      · apply Or.inl ready
      · apply Or.inr ⟨operation, List.mem_cons_self, brought⟩
    · rcases ih later with ready | ⟨other, mem, brought⟩
      · rcases List.mem_append.mp (replies_perform s operation ready) with ready | brought
        · apply Or.inl ready
        · apply Or.inr ⟨operation, List.mem_cons_self, brought⟩
      · apply Or.inr ⟨other, List.mem_cons_of_mem _ mem, brought⟩

end Session

end TypeCoverage.Package
