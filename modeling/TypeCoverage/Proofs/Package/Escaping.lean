import TypeCoverage.Proofs.Invocation.Spawned
import TypeCoverage.Proofs.Locator.Upward
import TypeCoverage.Proofs.Package.Bookkeeping
import TypeCoverage.Proofs.Package.Remaining
import TypeCoverage.Proofs.Request.Conduct

/-!
# Failures that escape from lints

A lint ends with diagnostics, with nothing, with a failure of the library, because it is
cancelled, or with a failure that escapes.  There are three ways for a failure to escape: the
search for the project comes to a place that is too long to be looked at, the checker cannot
be started for another reason than that it is missing, or the tile cannot show a report
because the count of its expressions has too many digits.

`Session.escaping` says of every run of a session, with any number of lints side by side, that
these are all, and that a lint fails whenever one of them happens.  It is about a checker that
is run as a program (`Session.IsRun`).
-/

namespace TypeCoverage

theorem Failure.Escapes.ne_fault {why : Failure} (escapes : why.Escapes) (fault : Fault) :
  why ≠ .fault fault
  := by
  rintro rfl
  exact escapes

/-- A reply to a call that is carried out by a program: the program could not be started, or
it has come to an end. -/
inductive Call.Gives (c : Call) : Reply → Prop where
  | unstarted {t : FileTree} {environment : List (String × String)} {why : Failure}
    (fails : c.StartFails t environment why) : Gives c (.failed why)
  | ended (superseded : Bool) (outcome : Outcome) : Gives c (c.reply superseded outcome)

/-- A failure that escapes from a program's call is one of its start. -/
theorem Call.Gives.failed_iff {c : Call} {why : Failure} (gives : c.Gives (.failed why))  :
  why.Escapes ↔ ∃ t environment, c.Obstructed t environment why
  := by
  constructor
  · intro escapes
    generalize same : Reply.failed why = reply at gives
    cases gives with
    | unstarted fails =>
      cases same
      exact ⟨_, _, Call.startFails_escapes_iff.mp ⟨fails, escapes⟩⟩
    | ended superseded outcome => exact absurd escapes (Call.reply_escapes same.symm)
  · rintro ⟨t, environment, obstructed⟩
    exact (Call.startFails_escapes_iff.mpr obstructed).2

namespace Package

/-- The package cannot show a report that it keeps at once. -/
structure CannotShow (p : Package) (d : String) (r : Report) : Prop where
  isOpen : p.isOpen d = true
  shows : p.showsReportOf d = true
  tooLong : Report.digitLimit < Decimal.digitCount r.total

theorem keepReport_eq_error_iff {p : Package} {d : String} {r : Report} {n : Nat}
    (percent : r.percent? = some n) {why : Failure} :
  (p.keepReport d r).result = .error why ↔
    p.showsReportOf d = true ∧ Report.digitLimit < Decimal.digitCount r.total ∧ why = .badValue none
  := by
  have shows : ({ p with cache := p.cache.set d r } : Package).showsReportOf d =
      p.showsReportOf d := rfl
  simp only [keepReport]
  rw [shows]
  cases p.showsReportOf d with
  | false => simp
  | true =>
    have summary : r.summary? = some ⟨n, r.covered, r.total⟩ := by
      rw [Report.summary?, percent]
      rfl
    rw [if_pos rfl, paint, Tile.reportCalls, summary]
    simp only [Summary.tooltip?]
    by_cases long : Report.digitLimit < Decimal.digitCount r.total
    · simp [long, eq_comm]
    · simp [long]

/-- A lint that brings a report fails if and only if the package cannot show it. -/
theorem hearReply_of_report_eq_error_iff {p : Package} {lint : Lint.Pending} {reply : Reply}
    {r : Report} (brings : reply.report? = some r) {why : Failure} :
  (p.hearReply lint reply).2.2 = .ended (.error why) ↔
    p.CannotShow lint.document.id r ∧ why = .badValue none
  := by
  cases isOpen : p.isOpen lint.document.id with
  | false =>
    rw [hearReply_of_closed p lint brings isOpen]
    simp only [LintStep.ended.injEq, reduceCtorEq, false_iff]
    rintro ⟨cannot, -⟩
    rw [cannot.isOpen] at isOpen
    cases isOpen
  | true =>
    have mapped : (p.keepReport lint.document.id r).result.map
          (fun _ => some (lint.diagnostics r)) = .error why ↔
        (p.keepReport lint.document.id r).result = .error why := by
      cases (p.keepReport lint.document.id r).result <;> simp [Except.map]
    rw [hearReply_of_open p lint brings isOpen, LintStep.ended.injEq, mapped,
      keepReport_eq_error_iff (reply.percent?_of_report? brings)]
    constructor
    · rintro ⟨shows, tooLong, rfl⟩
      exact ⟨⟨isOpen, shows, tooLong⟩, rfl⟩
    · rintro ⟨cannot, rfl⟩
      exact ⟨cannot.shows, cannot.tooLong, rfl⟩

/-- A lint that brings no report fails with a failure from outside if and only if it hears of
it. -/
theorem hearReply_of_none_eq_error_iff {p : Package} {lint : Lint.Pending} {reply : Reply}
    (brings : reply.report? = none) {why : Failure} (foreign : ∀ fault, why ≠ .fault fault) :
  (p.hearReply lint reply).2.2 = .ended (.error why) ↔ reply = .failed why
  := by
  rcases Request.hear_cases reply with
    ⟨result, state, heard, settles⟩ | ⟨starting, heard, ⟨fault, rfl, -⟩, -⟩
  · rw [hearReply, Lint.Pending.hear, heard]
    cases settles with
    | output text =>
      cases parsed : Report.parse text with
      | ok r => simp [Reply.report?, parsed, Except.toOption] at brings
      | error refusal =>
        simp only [parsed, LintStep.ended.injEq, Except.error.injEq, reduceCtorEq, iff_false]
        exact (foreign _).symm
    | replaced => simp
    | missing executable =>
      simp only [LintStep.ended.injEq, Except.error.injEq, Reply.failed.injEq]
      exact iff_of_false (foreign _).symm (foreign _).symm
    | refused | outside => simp
  · have busy : lint.hear (.failed (.fault fault)) =
        .busy (Request.startedRoot starting lint.config) := by
      rw [Lint.Pending.hear, heard]
    rw [hearReply_of_busy p lint busy]
    constructor
    · cases p.isOpen lint.document.id <;> simp
    · intro same
      cases same
      exact absurd rfl (foreign fault)

/-- A lint fails with a failure from outside if it hears of it, or if it brings a report that
cannot be shown. -/
theorem hearReply_eq_error_iff {p : Package} {lint : Lint.Pending} {reply : Reply} {why : Failure}
    (foreign : ∀ fault, why ≠ .fault fault) :
  (p.hearReply lint reply).2.2 = .ended (.error why) ↔
    reply = .failed why ∨
      ∃ r, reply.report? = some r ∧ p.CannotShow lint.document.id r ∧ why = .badValue none
  := by
  cases brings : reply.report? with
  | some r =>
    obtain ⟨text, rfl, -⟩ := Reply.parse_of_report? brings
    simp [hearReply_of_report_eq_error_iff brings]
  | none => simp [hearReply_of_none_eq_error_iff brings foreign]

namespace Session

variable {s : Session} {n : Nat} {why : Failure}

/-! ### Results that are failures -/

theorem error_of_finishStop {stop : Nat} (mem : (n, .error why) ∈ (s.finishStop stop).ended) :
  (n, .error why) ∈ s.ended
  := by
  rcases List.mem_append.mp mem with old | new
  · exact old
  · obtain ⟨id, -, same⟩ := List.mem_map.mp new
    cases same

theorem error_of_runStops {configured : String} {tasks : List StopTask}
    (mem : (n, .error why) ∈ (tasks.foldl (runStop configured) s).ended) :
  (n, .error why) ∈ s.ended
  := by
  induction tasks generalizing s with
  | nil => exact mem
  | cons task tasks ih =>
    have first := ih mem
    simp only [runStop] at first
    split at first
    · exact first
    · exact error_of_finishStop first

theorem error_of_cancelStops {stops : List Nat}
    (mem : (n, .error why) ∈ (stops.foldl cancelStop s).ended) :
  (n, .error why) ∈ s.ended
  := by
  induction stops generalizing s with
  | nil => exact mem
  | cons stop stops ih =>
    have kept (s : Session) (ids : List Nat) : (ids.foldl forget s).ended = s.ended := by
      induction ids generalizing s with
      | nil => rfl
      | cons id ids ih => exact ih _
    have first := error_of_finishStop (ih mem)
    rwa [kept] at first

/-- What a host does fails no task, except that a lint may fail as it begins. -/
theorem error_of_act {action : Action} (other : ∀ document, action ≠ .lint document)
    (mem : (n, .error why) ∈ (s.act action).ended) :
  (n, .error why) ∈ s.ended
  := by
  cases action with
  | activate fresh => cases fresh <;> exact mem
  | deactivate stopServers =>
    have earlier : (n, .error why) ∈ (s.commit (_, _)).ended := error_of_runStops mem
    exact earlier
  | lint document => exact absurd rfl (other document)
  | click | press | dismiss =>
    simp only [act, click?, press?, dismiss?] at mem
    split at mem <;> exact mem
  | waitPending =>
    simp only [act, waitPending] at mem
    split at mem
    · rcases List.mem_append.mp mem with old | new
      · exact old
      · cases List.mem_singleton.mp new
    · exact mem
  | _ => exact mem

theorem mem_ended_conclude {task : Nat} {lint : Lint.Pending} {result? : Option Lint.Result}
    {result : Lint.Result} :
  (n, result) ∈ (s.conclude task lint result?).ended ↔
    (n, result) ∈ s.ended ∨ n = task ∧ result? = some result
  := by
  cases result? with
  | none => simp [conclude, wait]
  | some other => simp [conclude, endTask, eq_comm]

/-! ### What a lint ends with -/

/-- A lint that hears replies one after another ends with the result of one of them. -/
theorem endedBy_eq_some_iff {p : Package} {lint : Lint.Pending} {replies : List Reply}
    {result : Lint.Result} (task : Nat) :
  endedBy p lint replies = some result ↔
    ∃ past reply later, heardBy p task lint replies = past ++ .heard task lint reply :: later ∧
      ((p.afterAll past).hearReply lint reply).2.2 = .ended result
  := by
  induction replies generalizing p with
  | nil => simp [endedBy, heardBy]
  | cons reply replies ih =>
    rw [endedBy, heardBy]
    rcases heard : p.hearReply lint reply with ⟨q, events, step⟩
    have next : p.after (.heard task lint reply) = q := congrArg Prod.fst heard
    have here : ((p.afterAll []).hearReply lint reply).2.2 = step := congrArg (·.2.2) heard
    cases step with
    | ended other =>
      dsimp only
      constructor
      · rintro ⟨⟩
        exact ⟨[], reply, [], rfl, here⟩
      · rintro ⟨past, reply', later, cut, ended⟩
        obtain ⟨rfl, same, -⟩ : past = [] ∧ Happening.heard task lint reply =
            .heard task lint reply' ∧ later = [] := by
          cases past with
          | nil => exact ⟨rfl, (List.cons.inj cut).1, (List.cons.inj cut).2.symm⟩
          | cons => simp at cut
        cases same
        rw [here] at ended
        cases ended
        rfl
    | again =>
      dsimp only
      rw [ih]
      constructor
      · rintro ⟨past, reply', later, cut, ended⟩
        refine ⟨.heard task lint reply :: past, reply', later, by rw [cut, List.cons_append], ?_⟩
        rw [afterAll, List.foldl_cons, next]
        exact ended
      · rintro ⟨past, reply', later, cut, ended⟩
        cases past with
        | nil =>
          cases (List.cons.inj cut).1
          rw [here] at ended
          cases ended
        | cons first past =>
          obtain ⟨rfl, below⟩ := List.cons.inj cut
          rw [afterAll, List.foldl_cons, next] at ended
          exact ⟨past, reply', later, below, ended⟩

/-- A lint ends with a result as it hears a reply. -/
def EndsHearing (p : Package) (happenings : List Happening) (n : Nat) (result : Lint.Result) :
    Prop :=
  ∃ past lint reply later, happenings = past ++ .heard n lint reply :: later ∧
    ((p.afterAll past).hearReply lint reply).2.2 = .ended result

/-- A lint that ends as it hears a reply has its result after the operation. -/
theorem mem_ended_of_endsHearing {operation : Operation} {result : Lint.Result}
    (ends : EndsHearing s.package (s.happenings operation) n result) :
  (n, result) ∈ (s.perform operation).ended
  := by
  obtain ⟨past, lint, reply, later, cut, ended⟩ := ends
  have mem : .heard n lint reply ∈ s.happenings operation := by simp [cut]
  obtain ⟨replies, s', -, same, concluded⟩ := heard_conclude mem
  rw [concluded, mem_ended_conclude, endedBy_eq_some_iff n]
  exact .inr ⟨rfl, past, reply, later, same.symm.trans cut, ended⟩

/-- A task has failed before, or it is a lint that fails as it begins or as it hears a reply,
or it is cancelled. -/
theorem error_of_perform {operation : Operation}
    (mem : (n, .error why) ∈ (s.perform operation).ended) :
  (n, .error why) ∈ s.ended ∨
    (∃ document, operation = .host (.lint document) ∧ n = s.next ∧
      (Lint.begin s.package.settings s.timeout s.tree s.memo document).1 = .ended (.error why)) ∨
    EndsHearing s.package (s.happenings operation) n (.error why) ∨
    operation = .cancel n ∧ why = .cancelled
  := by
  cases operation with
  | host action =>
    by_cases lints : ∃ document, action = .lint document
    · obtain ⟨document, rfl⟩ := lints
      change (n, .error why) ∈ (s.lint document).ended at mem
      rcases begun : Lint.begin s.package.settings s.timeout s.tree s.memo document with
        ⟨result | lint, memo⟩
      · rw [(lint_ended begun).1] at mem
        rcases List.mem_append.mp mem with old | new
        · exact .inl old
        · obtain ⟨rfl, rfl⟩ := Prod.mk.inj (List.mem_singleton.mp new)
          exact .inr (.inl ⟨document, rfl, rfl, by rw [begun]⟩)
      · obtain ⟨s', same, -, -, concluded⟩ :=
          converse_eq { s with next := s.next + 1, memo := memo } s.next lint s.replies
        rw [(lint_calls begun).1, concluded, mem_ended_conclude, endedBy_eq_some_iff s.next] at mem
        have ended : s'.ended = s.ended := congrArg Tasks.ended same
        rw [ended] at mem
        refine mem.imp_right fun heard => .inr (.inl ?_)
        obtain ⟨rfl, past, reply, later, cut, fails⟩ := heard
        exact ⟨past, lint, reply, later, (lint_calls begun).2.trans cut, fails⟩
    · exact .inl (error_of_act (fun document same => lints ⟨document, same⟩) mem)
  | respond index reply =>
    rcases s.respond_cases index reply with ⟨same, -⟩ | ⟨task, -, answered, heard⟩
    · rw [same] at mem
      exact .inl mem
    · rcases answer_cases answered with
        ⟨lint, s'', found, same, -, -, concluded⟩ | ⟨stop, call, -, finished, -⟩
      · rw [concluded, mem_ended_conclude, endedBy_eq_some_iff task] at mem
        have ended : s''.ended = s.ended := congrArg Tasks.ended same
        rw [ended] at mem
        refine mem.imp_right fun hears => .inr (.inl ?_)
        obtain ⟨rfl, past, first, later, cut, fails⟩ := hears
        refine ⟨past, lint, first, later, ?_, fails⟩
        rw [heard, ← cut]
        simp only [heardInReply, found]
      · rw [finished] at mem
        exact .inl (error_of_finishStop (s := s.forget task) mem)
  | queue replies => exact .inl mem
  | cancel task =>
    rcases s.perform_cancel_cases task with ⟨same, -⟩ | cancelled
    · rw [same] at mem
      exact .inl mem
    · rcases cancel_cases cancelled with ⟨lint, -, same, -⟩ | ⟨stops, -, same, -⟩
      · rw [same] at mem
        rcases List.mem_append.mp mem with old | new
        · exact .inl old
        · cases List.mem_singleton.mp new
          exact .inr (.inr (.inr ⟨rfl, rfl⟩))
      · rw [same] at mem
        rcases List.mem_append.mp mem with old | new
        · exact .inl (error_of_cancelStops (s := s.forget task) old)
        · cases List.mem_singleton.mp new
          exact .inr (.inr (.inr ⟨rfl, rfl⟩))

/-- A lint fails as it begins. -/
def FailsAtOnce (s : Session) (operations : List Operation) (n : Nat) (why : Failure) : Prop :=
  ∃ before document after, operations = before ++ .host (.lint document) :: after ∧
    n = (s.run before).next ∧
      (Lint.begin (s.run before).package.settings (s.run before).timeout (s.run before).tree
        (s.run before).memo document).1 = .ended (.error why)

theorem FailsAtOnce.append {operations more : List Operation}
    (fails : s.FailsAtOnce operations n why) :
  s.FailsAtOnce (operations ++ more) n why
  := by
  obtain ⟨before, document, after, rfl, own⟩ := fails
  exact ⟨before, document, after ++ more, by simp, own⟩

theorem EndsHearing.append {p : Package} {happenings : List Happening} {result : Lint.Result}
    (ends : EndsHearing p happenings n result) (more : List Happening) :
  EndsHearing p (happenings ++ more) n result
  := by
  obtain ⟨past, lint, reply, later, rfl, ended⟩ := ends
  exact ⟨past, lint, reply, later ++ more, by simp, ended⟩

theorem EndsHearing.prepend {p : Package} {happenings : List Happening} {result : Lint.Result}
    {first : List Happening} (ends : EndsHearing (p.afterAll first) happenings n result) :
  EndsHearing p (first ++ happenings) n result
  := by
  obtain ⟨past, lint, reply, later, rfl, ended⟩ := ends
  rw [← afterAll_append] at ended
  exact ⟨first ++ past, lint, reply, later, by simp, ended⟩

/-- A lint that ends as it hears a reply has its result after the run. -/
theorem mem_ended_run {operations : List Operation} {result : Lint.Result}
    (ends : EndsHearing s.package (s.history operations) n result) :
  (n, result) ∈ (s.run operations).ended
  := by
  induction operations generalizing s with
  | nil =>
    obtain ⟨past, lint, reply, later, cut, -⟩ := ends
    simp [history] at cut
  | cons operation operations ih =>
    obtain ⟨past, lint, reply, later, cut, ended⟩ := ends
    rw [history] at cut
    rcases append_eq_cut_iff.mp cut with ⟨between, now, -⟩ | ⟨between, rfl, later_cut⟩
    · apply (Tasks.Continues.run (s.perform operation) operations).ended
      exact mem_ended_of_endsHearing ⟨past, lint, reply, between, now, ended⟩
    · apply ih
      rw [package_perform]
      rw [afterAll_append] at ended
      exact ⟨between, lint, reply, later, later_cut, ended⟩

/-- The tasks that have failed after a run: they are lints that failed as they began or as
they heard a reply, or they have been cancelled. -/
theorem error_of_run (fresh : s.ended = []) {operations : List Operation}
    (mem : (n, .error why) ∈ (s.run operations).ended) :
  s.FailsAtOnce operations n why ∨
    EndsHearing s.package (s.history operations) n (.error why) ∨
    .cancel n ∈ operations ∧ why = .cancelled
  := by
  induction operations using List.reverseRecOn with
  | nil =>
    have none : (n, Except.error why) ∈ s.ended := mem
    simp [fresh] at none
  | append_singleton operations operation ih =>
    rw [run_concat] at mem
    rw [history_concat]
    rcases error_of_perform mem with
      old | ⟨document, rfl, own, fails⟩ | hears | ⟨rfl, rfl⟩
    · rcases ih old with fails | hears | ⟨cancelled, rfl⟩
      · exact .inl fails.append
      · exact .inr (.inl (hears.append _))
      · exact .inr (.inr ⟨List.mem_append_left _ cancelled, rfl⟩)
    · exact .inl ⟨operations, document, [], rfl, own, fails⟩
    · rw [package_run] at hears
      exact .inr (.inl hears.prepend)
    · exact .inr (.inr ⟨List.mem_append_right _ List.mem_cons_self, rfl⟩)

/-- A lint that fails as it begins has its failure after the run. -/
theorem FailsAtOnce.mem_ended {operations : List Operation}
    (fails : s.FailsAtOnce operations n why) :
  (n, .error why) ∈ (s.run operations).ended
  := by
  obtain ⟨before, document, after, rfl, rfl, fails⟩ := fails
  have run : s.run (before ++ .host (.lint document) :: after) =
      ((s.run before).lint document).run after := by
    rw [Session.run, List.foldl_append]
    rfl
  rw [run]
  apply (Tasks.Continues.run ((s.run before).lint document) after).ended
  rcases begun : Lint.begin (s.run before).package.settings (s.run before).timeout
    (s.run before).tree (s.run before).memo document with ⟨result | lint, memo⟩
  · rw [begun] at fails
    cases fails
    rw [(lint_ended begun).1]
    exact List.mem_append_right _ List.mem_cons_self
  · rw [begun] at fails
    cases fails

/-! ### Lints whose checker is run as a program -/

/-- All replies that lints hear are given by programs. -/
def IsRun (s : Session) (operations : List Operation) : Prop :=
  ∀ n lint reply, .heard n lint reply ∈ s.history operations → lint.call.Gives reply

/-- The ways for a failure to escape from a lint. -/
inductive Escape (s : Session) (operations : List Operation) : Nat → Failure → Prop where
  /-- The lint does not find its way upward to its project. -/
  | strays {before after : List Operation} {document : Document} {p : Path}
    (cut : operations = before ++ .host (.lint document) :: after)
    (strays : Lint.Strays (s.run before).tree (s.run before).memo document p) :
    Escape s operations (s.run before).next (.file .nameTooLong p.text)
  /-- The checker cannot be started, but not because it is missing. -/
  | obstructed {past later : List Happening} {n : Nat} {lint : Lint.Pending} {why : Failure}
    (cut : s.history operations = past ++ .heard n lint (.failed why) :: later)
    {t : FileTree} {environment : List (String × String)}
    (obstructed : lint.call.Obstructed t environment why) : Escape s operations n why
  /-- The count of the expressions of a report has too many digits for the tile. -/
  | cannotShow {past later : List Happening} {n : Nat} {lint : Lint.Pending} {reply : Reply}
    {r : Report} (cut : s.history operations = past ++ .heard n lint reply :: later)
    (brings : reply.report? = some r)
    (cannot : (s.package.afterAll past).CannotShow lint.document.id r) :
    Escape s operations n (.badValue none)

/-- What escapes from the lints of a run. -/
structure Escaping (s : Session) (operations : List Operation) : Prop where
  /-- A failure escapes from a lint if and only if it has one of the ways to do so. -/
  escapes_iff : ∀ n why, (n, .error why) ∈ (s.run operations).ended ∧ why.Escapes ↔
    s.Escape operations n why
  /-- Only tasks end as cancelled that have been cancelled, or whose call has been. -/
  cancelled : ∀ n, (n, .error .cancelled) ∈ (s.run operations).ended →
    .cancel n ∈ operations ∨ ∃ lint, .heard n lint (.failed .cancelled) ∈ s.history operations
  /-- A lint whose checker is missing fails and says so. -/
  missing : ∀ n lint executable,
    .heard n lint (.failed (.fault (.executableNotFound executable))) ∈ s.history operations →
      (n, .error (.fault (.lint executableMissingMessage))) ∈ (s.run operations).ended

/-- A failure that has a way to escape does so. -/
theorem Escape.mem_ended {operations : List Operation} (escape : s.Escape operations n why) :
  (n, .error why) ∈ (s.run operations).ended ∧ why.Escapes
  := by
  cases escape with
  | strays cut strays =>
    refine ⟨FailsAtOnce.mem_ended ⟨_, _, _, cut, rfl, ?_⟩, trivial⟩
    exact Lint.begin_eq_error_iff.mpr ⟨_, strays, rfl⟩
  | obstructed cut obstructed =>
    have escapes := (Call.startFails_escapes_iff.mpr obstructed).2
    refine ⟨mem_ended_run ⟨_, _, _, _, cut, ?_⟩, escapes⟩
    exact (hearReply_eq_error_iff escapes.ne_fault).mpr (.inl rfl)
  | cannotShow cut brings cannot =>
    refine ⟨mem_ended_run ⟨_, _, _, _, cut, ?_⟩, trivial⟩
    exact (hearReply_of_report_eq_error_iff brings).mpr ⟨cannot, rfl⟩

/-- From lints whose checker is run as a program, failures escape in three ways. -/
theorem escaping (settings : Settings) (tree : FileTree) (timeout : Option Binary64)
    {operations : List Operation} (isRun : (start settings tree timeout).IsRun operations) :
  (start settings tree timeout).Escaping operations
  := by
  constructor
  case escapes_iff =>
    intro n why
    constructor
    · rintro ⟨mem, escapes⟩
      rcases error_of_run rfl mem with
        ⟨before, document, after, cut, rfl, fails⟩ | ⟨past, lint, reply, later, cut, fails⟩ |
          ⟨-, rfl⟩
      · obtain ⟨p, strays, rfl⟩ := Lint.begin_eq_error_iff.mp fails
        exact .strays cut strays
      · have heard : .heard n lint reply ∈ (start settings tree timeout).history operations := by
          simp [cut]
        rcases (hearReply_eq_error_iff escapes.ne_fault).mp fails with
          rfl | ⟨r, brings, cannot, rfl⟩
        · obtain ⟨t, environment, obstructed⟩ := (isRun n lint _ heard).failed_iff.mp escapes
          exact .obstructed cut obstructed
        · exact .cannotShow cut brings cannot
      · exact escapes.elim
    · exact Escape.mem_ended
  case cancelled =>
    intro n mem
    rcases error_of_run rfl mem with
      ⟨before, document, after, cut, -, fails⟩ | ⟨past, lint, reply, later, cut, fails⟩ |
        ⟨cancelled, -⟩
    · obtain ⟨p, -, same⟩ := Lint.begin_eq_error_iff.mp fails
      cases same
    · rcases (hearReply_eq_error_iff (by simp)).mp fails with rfl | ⟨r, -, -, same⟩
      · exact .inr ⟨lint, by simp [cut]⟩
      · cases same
    · exact .inl cancelled
  case missing =>
    intro n lint executable heard
    obtain ⟨past, later, cut⟩ := List.append_of_mem heard
    exact mem_ended_run ⟨past, lint, _, later, cut, rfl⟩

/-! A checker that is there and cannot be run. -/

/-- The path of the checker is that of a file that is no program. -/
def deniedSettings : Settings := { executablePath := "/.flowconfig" }

/-- A lint that waits for this checker. -/
def deniedLint : Lint.Pending where
  document := sampleDocument
  file := "/a.js"
  showUncovered := false
  config := some (.ofText "/.flowconfig")
  call := Lint.coverageCall "/.flowconfig" "/a.js" "a" none

theorem begin_denied :
  ∃ memo, Lint.begin deniedSettings none projectSample .empty sampleDocument =
    (.calls deniedLint, memo)
  := by
  have directory : (Path.ofText "/a.js").parent.text = "/" := by decide +kernel
  simp only [Lint.begin, sampleDocument, directory, Locator.findProject, Locator.findUpward,
    walkUpward_projectSample]
  exact ⟨_, rfl⟩

theorem obstructed_denied :
  deniedLint.call.Obstructed projectSample [] (.file .permissionDenied "/.flowconfig")
  := by
  have cwd : (Path.ofText "/a.js").parent = ⟨.root, []⟩ := by decide +kernel
  have root : projectSample.walk ⟨.root, []⟩ = .found [] .directory := by
    rw [FileTree.walk, if_neg (by decide +kernel), if_neg (by decide +kernel)]
    simp [FileTree.startOf, FileTree.walkFrom, Path.isAbsolute]
  have placed : deniedLint.call.directory projectSample =
      .ok (projectSample.realName ⟨.root, []⟩) := by
    simp only [deniedLint, Lint.coverageCall, Call.directory, cwd, FileTree.probe, root]
  have entry : projectSample.entry? [".flowconfig"] = some (.file [] false) := by decide +kernel
  have steps (dir : List String) : FileTree.stepsOf "/.flowconfig" dir = ([], [".flowconfig"]) := by
    have absolute : (Path.ofText "/.flowconfig").isAbsolute = true := by decide +kernel
    have parts : (FileTree.stepsOf "/.flowconfig" []).2 = [".flowconfig"] := by decide +kernel
    rw [← parts]
    simp only [FileTree.stepsOf, absolute, if_true]
  have found (dir : List String) : projectSample.walkText dir "/.flowconfig" =
      .found [".flowconfig"] (.file [] false) := by
    rw [FileTree.walkText, if_neg (by decide +kernel), if_neg (by decide +kernel), steps]
    simp only
    rw [FileTree.walkFrom, if_neg (by decide +kernel), if_neg (by decide +kernel),
      if_neg (by decide +kernel)]
    simp only [List.nil_append, entry, List.isEmpty_nil, if_true]
  have octets : Text.octets "/.flowconfig" = "/.flowconfig" := by decide +kernel
  have ofOctets : Text.ofOctets "/.flowconfig" = "/.flowconfig" := by decide +kernel
  have candidates (searchPath : String) :
      Launch.candidates searchPath "/.flowconfig" = ["/.flowconfig"] := by
    rw [Launch.candidates, if_pos (by decide +kernel)]
  have blocked : deniedLint.call.lookUp projectSample (projectSample.realName ⟨.root, []⟩) [] =
      .error .denied := by
    simp only [deniedLint, Lint.coverageCall, Call.lookUp, Launch.ofNameWithFormat, octets,
      candidates, Launch.search, Launch.scriptLimit, Launch.ofPath, ofOctets,
      found, Launch.fileAt]
    rfl
  have clean : ¬ deniedLint.call.HoldsNull [] := by
    rw [Call.HoldsNull]
    decide +kernel
  have short : ¬ deniedLint.call.IsTooLong := by
    rw [Call.IsTooLong]
    decide +kernel
  exact .program placed clean short blocked (by simp)

/-- A lint that is told that its checker cannot be run. -/
def deniedSample : List Operation :=
  [.host (.takeTile {}), .host (.lint sampleDocument),
   .respond 0 (.failed (.file .permissionDenied "/.flowconfig"))]

theorem history_denied :
  (start deniedSettings projectSample none).history deniedSample =
    [.tileTaken {}, .heard 0 deniedLint (.failed (.file .permissionDenied "/.flowconfig"))]
  := by
  obtain ⟨memo, begun⟩ := begin_denied
  let first := (start deniedSettings projectSample none).act (.takeTile {})
  have waits := (lint_calls (s := first) begun).1
  have silent : first.heardAtOnce sampleDocument = [] := (lint_calls (s := first) begun).2
  change [Happening.tileTaken {}] ++ (first.heardAtOnce sampleDocument ++
    ((first.lint sampleDocument).happenings (.respond 0 _) ++ [])) = _
  rw [silent, waits]
  rfl

theorem escaping_denied :
  (start deniedSettings projectSample none).IsRun deniedSample ∧
    (start deniedSettings projectSample none).Escaping deniedSample
  := by
  have isRun : (start deniedSettings projectSample none).IsRun deniedSample := by
    intro n lint reply heard
    obtain ⟨rfl, rfl, rfl⟩ : n = 0 ∧ lint = deniedLint ∧
        reply = .failed (.file .permissionDenied "/.flowconfig") := by
      simpa [history_denied] using heard
    exact .unstarted (Call.startFails_escapes_iff.mpr obstructed_denied).1
  exact ⟨isRun, escaping deniedSettings projectSample none isRun⟩

/-- The checker is there and cannot be started, and its lint fails with what the system says
and not with a failure of the library. -/
theorem permission_denied_escapes :
  (∀ programs, deniedLint.call.spawn programs projectSample [] =
      .error (.file .permissionDenied "/.flowconfig")) ∧
    .heard 0 deniedLint (.failed (.file .permissionDenied "/.flowconfig")) ∈
      (start deniedSettings projectSample none).history deniedSample ∧
    (0, .error (.file .permissionDenied "/.flowconfig")) ∈
      ((start deniedSettings projectSample none).run deniedSample).ended
  := by
  have fails := (Call.startFails_escapes_iff.mpr obstructed_denied).1
  have history := history_denied
  refine ⟨fun programs => Call.spawn_eq_error_iff.mpr fails, by simp [history], ?_⟩
  exact mem_ended_run ⟨[.tileTaken {}], deniedLint, _, [], history, rfl⟩

end Session

end Package

end TypeCoverage
