import TypeCoverage.Proofs.Package.Bookkeeping
import TypeCoverage.Proofs.Package.Coherence

/-!
# Lints whose document is closed

A lint that waits for the checker is not stopped when its document is closed.  The package
only remembers the document, and the lint finds out when it hears the reply that it has
been waiting for.  As long as the document is remembered, that reply is the last one: it
brings no call, no report and no diagnostics (`Session.abandons_of_closed`).

The package forgets a closed document when it is opened or becomes active
(`Operation.Reopens`).  It also forgets all of them when the host is detached, so that a
lint may go on as if its document were open (`Session.goes_on_after_deactivate`).
-/

namespace TypeCoverage

/-- A reply never ends a lint with diagnostics before they are taken from a report. -/
theorem Lint.Pending.hear_ne_diagnostics (lint : Lint.Pending) (reply : Reply)
    (diagnostics : List Diagnostic) :
  lint.hear reply ≠ .ended (.ok (some diagnostics))
  := by
  rw [hear]
  split
  · simp
  · simp
  · simp
  · split <;> simp

namespace Package

/-- Whatever a lint of a closed document hears ends it, and nobody sees that it has. -/
theorem hearReply_of_not_isOpen (p : Package) (lint : Lint.Pending) (reply : Reply)
    (closed : p.isOpen lint.document.id = false) :
  ∃ q result, p.hearReply lint reply = (q, [], .ended result) ∧ q.view = p.view ∧
    ∀ diagnostics, result ≠ .ok (some diagnostics)
  := by
  cases heard : lint.hear reply with
  | ended result =>
    refine ⟨p, result, by rw [hearReply, heard], rfl, ?_⟩
    rintro diagnostics rfl
    apply lint.hear_ne_diagnostics reply diagnostics heard
  | busy root =>
    refine ⟨p.recordServer root, .ok none, ?_, view_recordServer p root, by simp⟩
    rw [hearReply_of_busy p lint heard, closed]
    rfl
  | report r => exact ⟨p, .ok none, by rw [hearReply, heard]; simp [closed], rfl, by simp⟩

/-- An operation opens a document, or all documents. -/
def Operation.Reopens (d : String) : Operation → Prop
  | .host (.opened other) => other = d
  | .host (.activeChanged document) => document = some d
  | .host (.deactivate _) => True
  | _ => False

namespace Session

/-! ### Documents that stay closed -/

theorem reopens_of_happens {s : Session} {operation : Operation} {h : Happening} {d : String}
    (mem : h ∈ s.happenings operation) (reopens : h.Reopens d) :
  operation.Reopens d
  := by
  have not_heard (task : Nat) (lint : Lint.Pending) (reply : Reply) :
      h ≠ .heard task lint reply := by
    rintro rfl
    simp [Happening.Reopens] at reopens
  have not_stopped (stop : Nat) : h ≠ .stopFinished stop := by
    rintro rfl
    simp [Happening.Reopens] at reopens
  cases operation with
  | host action =>
    cases action with
    | deactivate stopServers => trivial
    | lint document =>
      simp only [happenings, happeningsOf, heardAtOnce] at mem
      split at mem
      · contradiction
      · obtain ⟨reply, -, same⟩ := mem_heardBy mem
        exact absurd same (not_heard _ _ _)
    | click => simp only [happenings, happeningsOf] at mem; split at mem <;>
        simp_all [Happening.Reopens]
    | dismiss index => simp only [happenings, happeningsOf] at mem; split at mem <;>
        simp_all [Happening.Reopens]
    | _ => simp_all [happenings, happeningsOf, Happening.Reopens, Operation.Reopens]
  | respond index first =>
    simp only [happenings, heardInReply] at mem
    split at mem
    · split at mem
      · obtain ⟨reply, -, same⟩ := mem_heardBy mem
        exact absurd same (not_heard _ _ _)
      · exact absurd (List.mem_singleton.mp mem) (not_stopped _)
      · contradiction
    · contradiction
  | queue replies => contradiction
  | cancel task =>
    simp only [happenings, stoppedBy] at mem
    split at mem
    · obtain ⟨stop, -, same⟩ := List.mem_map.mp mem
      exact absurd same.symm (not_stopped _)
    · contradiction

/-- A closed document stays closed in an operation that does not open it. -/
theorem closed_perform {s : Session} {operation : Operation} {d : String}
    (closed : d ∈ s.package.closed) (stays : ¬ operation.Reopens d) :
  d ∈ (s.perform operation).package.closed
  := by
  have kept (l : Ledger) (past : List Happening) (closed : d ∈ l.closed)
      (stays : ∀ h ∈ past, ¬ h.Reopens d) : d ∈ (past.foldl Ledger.after l).closed := by
    induction past generalizing l with
    | nil => apply closed
    | cons h past ih =>
      apply ih
      · by_contra opened
        rcases (l.not_mem_closed_after h d).mp opened with reopens | ⟨-, isOpen⟩
        · apply stays h List.mem_cons_self reopens
        · apply isOpen closed
      · intro h mem
        apply stays h (List.mem_cons_of_mem _ mem)
  change d ∈ (s.perform operation).package.ledger.closed
  rw [package_perform, ledger_afterAll]
  apply kept _ _ closed
  intro h mem reopens
  apply stays (reopens_of_happens mem reopens)

theorem closed_run {s : Session} {operations : List Operation} {d : String}
    (closed : d ∈ s.package.closed) (stays : ∀ operation ∈ operations, ¬ operation.Reopens d) :
  d ∈ (s.run operations).package.closed
  := by
  induction operations generalizing s with
  | nil => apply closed
  | cons operation operations ih =>
    apply ih
    · apply closed_perform closed (stays operation List.mem_cons_self)
    · intro other mem
      apply stays other (List.mem_cons_of_mem _ mem)

/-! ### Lints that wait on -/

variable {s s' : Session} {task : Nat} {lint : Lint.Pending}

theorem waits_finishStop (waits : (task, .lint lint) ∈ s.jobs) (stop : Nat) :
  (task, .lint lint) ∈ (s.finishStop stop).jobs
  := List.mem_filterMap.mpr ⟨_, waits, rfl⟩

theorem waits_forget (waits : (task, .lint lint) ∈ s.jobs) {other : Nat}
    (different : task ≠ other) :
  (task, .lint lint) ∈ (s.forget other).jobs
  := List.mem_filter.mpr ⟨waits, by simpa using different⟩

theorem waits_forgetAll (waits : (task, .lint lint) ∈ s.jobs) {others : List Nat}
    (different : task ∉ others) :
  (task, .lint lint) ∈ (others.foldl forget s).jobs
  := by
  induction others generalizing s with
  | nil => apply waits
  | cons other others ih =>
    rw [List.mem_cons, not_or] at different
    apply ih (waits_forget waits different.1) different.2

theorem waits_cancelStops (numbered : s.tasks.Numbered) (waits : (task, .lint lint) ∈ s.jobs)
    (stops : List Nat) :
  (task, .lint lint) ∈ (stops.foldl cancelStop s).jobs
  := by
  induction stops generalizing s with
  | nil => apply waits
  | cons stop stops ih =>
    apply ih ((Tasks.Continues.cancelStops s [stop]).numbered numbered)
    apply waits_finishStop
    apply waits_forgetAll waits
    intro mem
    obtain ⟨⟨other, job⟩, runs, own⟩ := List.mem_filterMap.mp mem
    rcases job with _ | ⟨_, _⟩ | _
    · simp at own
    · simp only [Option.ite_none_right_eq_some, Option.some.injEq] at own
      obtain ⟨-, rfl⟩ := own
      simpa using job_unique numbered runs waits
    · simp at own

theorem waits_runStops (waits : (task, .lint lint) ∈ s.jobs) (configured : String)
    (stops : List StopTask) :
  (task, .lint lint) ∈ (stops.foldl (runStop configured) s).jobs
  := by
  induction stops generalizing s with
  | nil => apply waits
  | cons stop stops ih =>
    apply ih
    rw [runStop]
    simp only
    split
    · apply List.mem_append_left _ waits
    · apply waits_finishStop waits

theorem waits_act (waits : (task, .lint lint) ∈ s.jobs) (action : Action) :
  (task, .lint lint) ∈ (s.act action).jobs
  := by
  cases action with
  | activate fresh => cases fresh <;> exact waits
  | deactivate stopServers => apply waits_runStops (s := s.commit _) waits
  | lint document =>
    rcases s.lint_cases document with ⟨_, _, -, ended, -⟩ | ⟨began, _, s', -, same, -, -, heard⟩
    · simp only [act, ended]
      apply waits
    · have jobs : s'.jobs = s.jobs := congrArg Tasks.jobs same
      simp only [act, heard]
      cases endedBy s.package began s.replies with
      | none => exact List.mem_append_left _ (jobs ▸ waits)
      | some result => exact jobs ▸ waits
  | click => simp only [act, click?]; split <;> exact waits
  | press index => simp only [act, press?]; split <;> exact waits
  | dismiss index => simp only [act, dismiss?]; split <;> exact waits
  | waitPending =>
    simp only [act, waitPending]
    split
    · exact waits
    · exact List.mem_append_left _ waits
  | _ => exact waits

/-- A lint waits on until it is answered or cancelled. -/
theorem waits_perform (numbered : s.tasks.Numbered) (waits : (task, .lint lint) ∈ s.jobs)
    (operation : Operation) :
  (task, .lint lint) ∈ (s.perform operation).jobs ∨
    (∃ index reply, operation = .respond index reply ∧ s.waiting[index]? = some task ∧
      s.answer? task reply = some (s.perform operation)) ∨
    operation = .cancel task ∧ (task, .error .cancelled) ∈ (s.perform operation).ended
  := by
  cases operation with
  | host action => apply Or.inl (waits_act waits action)
  | queue replies => apply Or.inl waits
  | respond index reply =>
    rcases s.respond_cases index reply with ⟨same, -⟩ | ⟨other, place, answered, -⟩
    · rw [same]
      apply Or.inl waits
    · by_cases own : task = other
      · obtain rfl := own
        apply Or.inr (Or.inl ⟨index, reply, rfl, place, answered⟩)
      · apply Or.inl
        generalize s.perform (.respond index reply) = s' at answered ⊢
        rcases answer_cases answered with ⟨heard, s'', -, same, -, -, rfl⟩ | ⟨_, _, -, rfl, -⟩
        · have jobs : s''.jobs = (s.forget other).jobs := congrArg Tasks.jobs same
          have waits' := waits_forget waits own
          cases endedBy s.package heard (reply :: s.replies) with
          | none => exact List.mem_append_left _ (jobs ▸ waits')
          | some result => exact jobs ▸ waits'
        · apply waits_finishStop (waits_forget waits own)
  | cancel other =>
    rcases s.perform_cancel_cases other with ⟨same, -⟩ | cancelled
    · rw [same]
      apply Or.inl waits
    · generalize s.perform (.cancel other) = s' at cancelled ⊢
      by_cases own : task = other
      · obtain rfl := own
        rcases cancel_cases cancelled with ⟨_, -, rfl, -⟩ | ⟨_, -, rfl, -⟩
        · apply Or.inr (Or.inr ⟨rfl, List.mem_append_right _ List.mem_cons_self⟩)
        · apply Or.inr (Or.inr ⟨rfl, List.mem_append_right _ List.mem_cons_self⟩)
      · apply Or.inl
        rcases cancel_cases cancelled with ⟨_, -, rfl, -⟩ | ⟨stops, -, rfl, -⟩
        · apply waits_forget waits own
        · apply waits_cancelStops _ (waits_forget waits own)
          apply (Tasks.Continues.forget s other).numbered numbered

/-! ### The last reply -/

/-- A lint of a closed document that is answered ends, and nobody sees that it has. -/
theorem answer_closed {reply : Reply} (numbered : s.tasks.Numbered)
    (waits : (task, .lint lint) ∈ s.jobs) (closed : lint.document.id ∈ s.package.closed)
    (answered : s.answer? task reply = some s') :
  s.heardInReply task reply = [.heard task lint reply] ∧ s'.events = s.events ∧
    s'.package.view = s.package.view ∧ s'.jobs = (s.forget task).jobs ∧
      ∃ result, (task, result) ∈ s'.ended ∧ ∀ diagnostics, result ≠ .ok (some diagnostics)
  := by
  have found := lookup_of_mem_jobs numbered waits
  have shut : s.package.isOpen lint.document.id = false := by
    rw [← Bool.not_eq_true, isOpen_iff]
    apply not_not_intro closed
  obtain ⟨q, result, heard, view, none⟩ :=
    hearReply_of_not_isOpen s.package lint reply shut
  rw [answer_of_ended found heard, Option.some.injEq] at answered
  obtain rfl := answered
  refine ⟨?_, List.append_nil _, view, rfl, result, ?_, none⟩
  · simp only [heardInReply, found, heardBy, heard]
  · apply List.mem_append_right _ List.mem_cons_self

/-- In an operation a lint hears a reply that ends it, and nobody sees that it has: it does
not call the checker again, nothing is shown, and no report is kept. -/
structure HearsInVain (s : Session) (operation : Operation) (task : Nat) (lint : Lint.Pending)
    (reply : Reply) : Prop where
  alone : s.happenings operation = [.heard task lint reply]
  unseen : (s.perform operation).events = s.events
  kept : (s.perform operation).package.view = s.package.view
  ends : ∃ result, (task, result) ∈ (s.perform operation).ended ∧
    ∀ diagnostics, result ≠ .ok (some diagnostics)

/-- What becomes of a lint in some operations, if all that it takes is the reply that it
has been waiting for. -/
structure Abandons (s : Session) (operations : List Operation) (task : Nat)
    (lint : Lint.Pending) : Prop where
  /-- The lint still waits, or it has ended without diagnostics. -/
  fate : (task, .lint lint) ∈ (s.run operations).jobs ∨
    ∃ result, (task, result) ∈ (s.run operations).ended ∧
      ∀ diagnostics, result ≠ .ok (some diagnostics)
  /-- Whenever the lint hears a reply, it does so in vain, and hears nothing afterwards. -/
  last : ∀ early operation late, operations = early ++ operation :: late →
    ∀ heard reply, .heard task heard reply ∈ (s.run early).happenings operation →
      HearsInVain (s.run early) operation task lint reply ∧
        ∀ heard' reply',
          .heard task heard' reply' ∉ ((s.run early).perform operation).history late

theorem fate_of_closed (numbered : s.tasks.Numbered) (waits : (task, .lint lint) ∈ s.jobs)
    (closed : lint.document.id ∈ s.package.closed) {operations : List Operation}
    (stays : ∀ operation ∈ operations, ¬ operation.Reopens lint.document.id) :
  (task, .lint lint) ∈ (s.run operations).jobs ∨
    ∃ result, (task, result) ∈ (s.run operations).ended ∧
      ∀ diagnostics, result ≠ .ok (some diagnostics)
  := by
  induction operations generalizing s with
  | nil => apply Or.inl waits
  | cons operation operations ih =>
    have continues := Tasks.Continues.perform s operation
    have rest := Tasks.Continues.run (s.perform operation) operations
    rcases waits_perform numbered waits operation with
      waits' | ⟨index, reply, -, -, answered⟩ | ⟨-, cancelled⟩
    · apply ih (continues.numbered numbered) waits'
      · apply closed_perform closed (stays operation List.mem_cons_self)
      · intro other mem
        apply stays other (List.mem_cons_of_mem _ mem)
    · obtain ⟨-, -, -, -, result, ended, none⟩ := answer_closed numbered waits closed answered
      apply Or.inr ⟨result, rest.ended ended, none⟩
    · apply Or.inr ⟨_, rest.ended cancelled, by simp⟩

theorem last_of_closed (numbered : s.tasks.Numbered) (waits : (task, .lint lint) ∈ s.jobs)
    (closed : lint.document.id ∈ s.package.closed) {operation : Operation} {later : List Operation}
    {heard : Lint.Pending} {reply : Reply}
    (mem : .heard task heard reply ∈ s.happenings operation) :
  HearsInVain s operation task lint reply ∧
    ∀ heard' reply', .heard task heard' reply' ∉ (s.perform operation).history later
  := by
  have given : task < s.next := by
    apply numbered.below
    apply List.mem_append_left _ (List.mem_map.mpr ⟨_, waits, rfl⟩)
  rcases heard_cases mem with ⟨_, _, _, rfl, _⟩ | ⟨index, first, rfl, place, found⟩
  · exact absurd given (Nat.lt_irrefl _)
  · obtain ⟨rfl⟩ := Job.lint.inj (job_unique numbered waits (mem_jobs_of_lookup found))
    have answered : s.answer? task first = some (s.perform (.respond index first)) := by
      simp only [perform, respond?, place, answer?, found, Option.bind_some, Option.getD_some]
    obtain ⟨alone, unseen, kept, jobs, ends⟩ := answer_closed numbered waits closed answered
    have happens : s.happenings (.respond index first) = s.heardInReply task first := by
      simp only [happenings, place]
    have own : reply = first := by
      rw [happens, alone, List.mem_singleton] at mem
      exact (Happening.heard.inj mem).2.2
    obtain rfl := own
    refine ⟨⟨happens.trans alone, unseen, kept, ends⟩, ?_⟩
    intro heard' reply' again
    have old : task < (s.perform (.respond index reply)).next :=
      Nat.lt_of_lt_of_le given (Tasks.Continues.perform s _).next
    have waits' := waits_of_history old again
    rw [jobs] at waits'
    simp [forget] at waits'

/-- A lint that waits for the checker when its document is closed takes no more than the
reply that it waits for, unless the document is opened or becomes active again or the host
is detached. -/
theorem abandons_of_closed (settings : Settings) (tree : FileTree) (timeout : Option Binary64)
    {before after : List Operation} {task : Nat} {lint : Lint.Pending}
    (waits : (task, .lint lint) ∈ ((start settings tree timeout).run before).jobs)
    (stays : ∀ operation ∈ after, ¬ operation.Reopens lint.document.id) :
  Abandons (((start settings tree timeout).run before).perform
    (.host (.closed lint.document.id))) after task lint
  := by
  generalize at_close : ((start settings tree timeout).run before).perform
    (.host (.closed lint.document.id)) = s
  have numbered : s.tasks.Numbered := by
    rw [← at_close]
    apply (Tasks.Continues.perform _ _).numbered
    apply (Tasks.Continues.run _ before).numbered (numbered_start settings tree timeout)
  have waits' : (task, .lint lint) ∈ s.jobs := by
    rw [← at_close]
    apply waits
  have closed : lint.document.id ∈ s.package.closed := by
    rw [← at_close]
    change _ ∈ (Package.closedDocument _ _).package.ledger.closed
    rw [ledger_closedDocument]
    apply List.mem_cons_self
  constructor
  · apply fate_of_closed numbered waits' closed stays
  · rintro early operation late rfl heard reply mem
    have continues := Tasks.Continues.run s early
    -- The lint that hears the reply is the one that has waited since its document was closed.
    have still : (task, .lint lint) ∈ (s.run early).jobs := by
      have given : task < s.next := by
        apply numbered.below
        apply List.mem_append_left _ (List.mem_map.mpr ⟨_, waits', rfl⟩)
      have last : .heard task heard reply ∈ (s.run early).history [operation] :=
        List.mem_append_left _ mem
      have all : .heard task heard reply ∈ s.history (early ++ [operation]) := by
        rw [history_append]
        apply List.mem_append_right _ last
      have began : (task, .lint heard) ∈ s.jobs := waits_of_history given all
      have hears : (task, .lint heard) ∈ (s.run early).jobs :=
        waits_of_history (Nat.lt_of_lt_of_le given continues.next) last
      rw [Job.lint.inj (job_unique numbered waits' began)]
      apply hears
    apply last_of_closed (continues.numbered numbered) still _ mem
    apply closed_run closed
    intro other mem
    apply stays other (List.mem_append_left _ mem)

/-! A document is closed while a lint waits for the checker. -/

/-- The reply of a checker that cannot answer yet. -/
def busySample : Reply :=
  .failed (.fault (.invocation ["flow", "coverage"] (some 0) (some "") (some "flow is rechecking")))

theorem lint_sample :
  ∃ (lint : Lint.Pending) (memo : Memo), lint.document.id = "a" ∧
    (start sampleSettings ⟨[], []⟩ none).run [.host (.lint sampleDocument)] =
      ({ start sampleSettings ⟨[], []⟩ none with next := 1, memo := memo }.emit
        [.call lint.call]).wait 0 (.lint lint)
  := by
  obtain ⟨lint, memo, begun, same⟩ := begin_sample
  exact ⟨lint, memo, same, (lint_calls (s := start sampleSettings ⟨[], []⟩ none) begun).1⟩

/-- The lint hears a report in vain. -/
theorem abandons_sample :
  ∃ lint, (0, .lint lint) ∈
      ((start sampleSettings ⟨[], []⟩ none).run [.host (.lint sampleDocument)]).jobs ∧
    lint.document.id = "a" ∧
    Abandons (((start sampleSettings ⟨[], []⟩ none).run [.host (.lint sampleDocument)]).perform
      (.host (.closed lint.document.id))) [.respond 0 (.output sampleText)] 0 lint
  := by
  obtain ⟨lint, memo, same, waiting⟩ := lint_sample
  have waits : (0, .lint lint) ∈
      ((start sampleSettings ⟨[], []⟩ none).run [.host (.lint sampleDocument)]).jobs := by
    rw [waiting]
    apply List.mem_append_right _ List.mem_cons_self
  refine ⟨lint, waits, same, ?_⟩
  apply abandons_of_closed sampleSettings ⟨[], []⟩ none waits
  intro operation mem
  obtain rfl := List.mem_singleton.mp mem
  exact id

/-- The document is closed, and the host is detached and attached again. -/
def detachedSample : List Operation :=
  [.host (.lint sampleDocument), .host (.closed "a"), .host (.deactivate false),
    .host (.activate false), .host (.takeTile {})]

/-- If the host is detached after the document was closed, the lint calls the busy checker
again, keeps the report that it then hears and shows it, although the document has neither
been opened nor become active. -/
theorem goes_on_after_deactivate :
  let s := (start sampleSettings ⟨[], []⟩ none).run detachedSample
  let s' := s.run [.respond 0 busySample, .respond 0 (.output sampleText)]
  ∃ lint, lint.document.id = "a" ∧ (0, .lint lint) ∈ s.jobs ∧
    s.package.cache.get (some "a") = none ∧
    (s.perform (.respond 0 busySample)).events = s.events ++ [.call lint.call] ∧
    s'.package.cache.get (some "a") = some ⟨3, 1, []⟩ ∧
    s'.package.tile = some (Tile.rendering (some ⟨3, 1, []⟩))
  := by
  intro s s'
  obtain ⟨lint, memo, same, waiting⟩ := lint_sample
  have detached : s = (({ start sampleSettings ⟨[], []⟩ none with next := 1, memo := memo }.emit
      [.call lint.call]).wait 0 (.lint lint)).run (detachedSample.drop 1) := by
    rw [← waiting]
    rfl
  clear_value s
  have jobs : s.jobs = [(0, .lint lint)] := by rw [detached]; rfl
  have waiting : s.waiting = [0] := by rw [detached]; rfl
  have replies : s.replies = [] := by rw [detached]; rfl
  have isOpen : s.package.isOpen lint.document.id = true := by rw [detached]; rfl
  have notice : lint.hear busySample = .busy none := rfl
  have found : s.jobs.lookup 0 = some (.lint lint) := by rw [jobs]; rfl
  have again : s.perform (.respond 0 busySample) =
      ({ s with waiting := [], jobs := [], replies := [] }.emit [.call lint.call]).wait 0
        (.lint lint) := by
    simp [perform, respond?, waiting, answer_of_busy found notice isOpen replies, recordServer,
      forget, jobs, commit, emit, countNotifications]
  have kept := hearReply_of_open s.package lint report_sampleText isOpen
  have reached : s'.package = (s.package.keepReport lint.document.id ⟨3, 1, []⟩).package := by
    change ((s.perform (.respond 0 busySample)).perform (.respond 0 (.output sampleText))).package
      = _
    rw [again]
    simp [perform, respond?, answer?, forget, hear, kept, commit, emit, wait, endTask]
  refine ⟨lint, same, by simp [jobs], ?_, ?_, ?_, ?_⟩
  · rw [detached]
    rfl
  · rw [again]
    rfl
  · rw [reached, same, detached]
    rfl
  · have writable : Report.IsWritable ⟨3, 1, []⟩ := by
      rw [Report.IsWritable]
      decide +kernel
    obtain ⟨t, tile⟩ : ∃ t, s.package.tile = some t := by
      rw [detached]
      exact ⟨_, rfl⟩
    have attached : s.package.attached = true := by rw [detached]; rfl
    have active : s.package.active = none := by rw [detached]; rfl
    rw [reached, same]
    simp only [keepReport, showsReportOf, attached, active, paint, tile, Option.map_some,
      Option.isNone_none, Bool.true_or, Bool.and_self, if_true]
    rw [Tile.applyAll_reportCalls t writable]

end Session

end Package

end TypeCoverage
