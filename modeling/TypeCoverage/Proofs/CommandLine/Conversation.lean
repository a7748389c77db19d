import TypeCoverage.Proofs.CommandLine.Printed
import TypeCoverage.Proofs.Locator.Upward
import TypeCoverage.Proofs.Package.Remaining
import TypeCoverage.Proofs.Request.Conduct

/-!
# The conversation of a run with the checker

A run of `coverage` lints its file in a session of its own, and makes the same call until a
reply concludes the lint (`Concludes`).  While the checker is busy the lint waits for it, and
what is recorded is the project, if one of the replies tells of a server that is being started
(`Waiting`).  After the reply that concludes it the lint is over (`Over`).

`lintFile_of_talks` says what the whole conversation comes to, and `lintFile_of_ended` what a
lint comes to that never calls the checker.
-/

namespace TypeCoverage

/-- A reply of a checker that is not busy: a failure of the library's own, none, or a text.
The count of the expressions of a report can be written. -/
inductive Reply.IsFinal : Reply → Prop where
  | refused {why : Fault} (quiet : ¬ (Reply.failed (.fault why)).IsBusy) :
    IsFinal (.failed (.fault why))
  | replaced : IsFinal .replaced
  | output {text : String} (writable : (Reply.output text).IsWritable) : IsFinal (.output text)

namespace CommandLine

open Package (Session)

variable {σ : Type}

/-! ### Worlds that are asked the same again -/

/-- The replies to a call that is made several times, and the world after them. -/
def World.askTimes (w : World σ) (call : Call) : Nat → List Reply × World σ
  | 0 => ([], w)
  | n + 1 =>
    let (reply, w) := w.ask call
    let (replies, w) := w.askTimes call n
    (reply :: replies, w)

theorem World.askTimes_succ (w : World σ) (call : Call) (n : Nat) :
  w.askTimes call (n + 1) =
    ((w.ask call).1 :: ((w.ask call).2.askTimes call n).1, ((w.ask call).2.askTimes call n).2)
  := rfl

theorem World.calls_askTimes (w : World σ) (call : Call) (n : Nat) :
  (w.askTimes call n).2.calls = w.calls ++ List.replicate n call
  := by
  induction n generalizing w with
  | zero => exact (List.append_nil _).symm
  | succ n ih =>
    have once : (w.ask call).2.calls = w.calls ++ [call] := rfl
    rw [askTimes_succ, ih, once, List.append_assoc, List.replicate_succ]
    rfl

/-! ### Replies that conclude a lint -/

/-- What a reply makes of the lint that it concludes: its result, and the report that is kept. -/
inductive Concludes (lint : Lint.Pending) : Reply → Lint.Result → Option Report → Prop where
  | replaced : Concludes lint .replaced (.ok none) none
  | missing (executable : String) :
    Concludes lint (.failed (.fault (.executableNotFound executable)))
      (.error (.fault (.lint executableMissingMessage))) none
  | refused {why : Fault} (found : ∀ executable, why ≠ .executableNotFound executable)
    (quiet : ¬ Busy.IsNotice why.message) :
    Concludes lint (.failed (.fault why)) (.error (.fault why)) none
  | unreadable {text : String} {why : Report.Refusal} (parsed : Report.parse text = .error why) :
    Concludes lint (.output text) (.error (.fault (.report (.refused why)))) none
  | report {text : String} {r : Report} (parsed : Report.parse text = .ok r)
    (writable : r.IsWritable) :
    Concludes lint (.output text) (.ok (some (lint.diagnostics r))) (some r)

/-- Every final reply concludes a lint. -/
theorem exists_concludes {reply : Reply} (final : reply.IsFinal) (lint : Lint.Pending) :
  ∃ result report?, Concludes lint reply result report?
  := by
  cases final with
  | @refused why quiet =>
    by_cases missing : ∃ executable, why = .executableNotFound executable
    · obtain ⟨executable, rfl⟩ := missing
      exact ⟨_, _, .missing executable⟩
    · have found : ∀ executable, why ≠ .executableNotFound executable := by
        rintro executable rfl
        exact missing ⟨executable, rfl⟩
      rw [Reply.IsBusy, Reply.tells_failed_iff found] at quiet
      exact ⟨_, _, .refused found quiet⟩
  | replaced => exact ⟨_, _, .replaced⟩
  | @output text writable =>
    rcases parsed : Report.parse text with why | r
    · exact ⟨_, _, .unreadable parsed⟩
    · have brings : (Reply.output text).report? = some r := by rw [Reply.report?, parsed]; rfl
      exact ⟨_, _, .report parsed (writable r brings)⟩

/-- A lint that answers diagnostics has kept a report. -/
theorem Concludes.report_of_diagnostics {lint : Lint.Pending} {reply : Reply}
    {ds : List Diagnostic} {report? : Option Report}
    (concludes : Concludes lint reply (.ok (some ds)) report?) :
  ∃ r, report? = some r
  := by
  cases concludes with
  | report => exact ⟨_, rfl⟩

/-- With a text that is read as a report, a lint answers the diagnostics of the report. -/
theorem Concludes.result_of_parse {lint : Lint.Pending} {text : String} {r : Report}
    {result : Lint.Result} {report? : Option Report}
    (concludes : Concludes lint (.output text) result report?)
    (parsed : Report.parse text = .ok r) :
  result = .ok (some (lint.diagnostics r))
  := by
  cases concludes with
  | unreadable refused =>
    rw [parsed] at refused
    cases refused
  | report parsed' =>
    obtain rfl := Except.ok.inj (parsed.symm.trans parsed')
    rfl

/-! ### Packages of a run -/

/-- A package with some settings in which a document is active, with what is recorded. -/
structure Attends (settings : Settings) (d : String) (root? : Option Path) (p : Package) :
    Prop where
  settings : p.settings = settings
  isOpen : p.isOpen d = true
  shows : p.showsReportOf d = true
  empty : p.cache = .empty
  tile : ∃ tile, p.tile = some tile
  roots : p.servers.roots = root?.toList

/-- A package after the lint of a document, with the report that is kept and what is
recorded. -/
structure Keeps (settings : Settings) (d : String) (report? : Option Report)
    (root? : Option Path) (p : Package) : Prop where
  settings : p.settings = settings
  cached : p.cache.get (some d) = report?
  writable : ∀ r, report? = some r → r.IsWritable
  shown : ∀ r, report? = some r → p.tile = some (Tile.rendering (some r))
  roots : p.servers.roots = root?.toList

namespace Attends

variable {settings : Settings} {d : String} {root? : Option Path} {p : Package}

theorem keeps (attends : Attends settings d root? p) :
  Keeps settings d none root? p
  where
  settings := attends.settings
  cached := by
    rw [attends.empty]
    rfl
  writable := by simp
  shown := by simp
  roots := attends.roots

/-- A report whose count can be written is cached and shown. -/
theorem keepReport (attends : Attends settings d root? p) {r : Report} (writable : r.IsWritable) :
  (p.keepReport d r).result = .ok () ∧
    Keeps settings d (some r) root? (p.keepReport d r).package
  := by
  obtain ⟨tile, own⟩ := attends.tile
  have shows : ({ p with cache := p.cache.set d r } : Package).showsReportOf d = true :=
    attends.shows
  rw [Package.keepReport, if_pos shows]
  constructor
  · exact Tile.result_reportCalls writable
  · exact {
      settings := attends.settings
      cached := (Cache.get_set ..).trans (if_pos rfl)
      writable := by
        rintro _ ⟨⟩
        exact writable
      shown := by
        rintro _ ⟨⟩
        rw [← Tile.applyAll_reportCalls tile writable]
        exact congrArg (Option.map _) own
      roots := attends.roots }

/-- A lint ends with the reply that concludes it. -/
theorem hearReply {lint : Lint.Pending} (attends : Attends settings lint.document.id root? p)
    {reply : Reply} {result : Lint.Result} {report? : Option Report}
    (concludes : Concludes lint reply result report?) :
  (p.hearReply lint reply).2.2 = .ended result ∧
    Keeps settings lint.document.id report? root? (p.hearReply lint reply).1
  := by
  cases concludes with
  | replaced => exact ⟨rfl, attends.keeps⟩
  | missing executable => exact ⟨rfl, attends.keeps⟩
  | @refused why found quiet =>
    rcases Request.hear_cases (.failed (.fault why)) with
      ⟨result, state, heard, settles⟩ | ⟨starting, -, busy, -⟩
    · obtain ⟨rfl, rfl⟩ := settles.fault found
      rw [Package.hearReply, Lint.Pending.hear, heard]
      exact ⟨rfl, attends.keeps⟩
    · exact absurd ((Reply.tells_failed_iff found).mp busy) quiet
  | @unreadable text why parsed =>
    have heard : lint.hear (.output text) =
        .ended (.error (.fault (.report (.refused why)))) := by
      simp [Lint.Pending.hear, Request.hear, parsed]
    rw [Package.hearReply, heard]
    exact ⟨rfl, attends.keeps⟩
  | @report text r parsed writable =>
    have brings : (Reply.output text).report? = some r := by rw [Reply.report?, parsed]; rfl
    obtain ⟨kept, keeps⟩ := attends.keepReport writable
    rw [Package.hearReply_of_open p lint brings attends.isOpen, kept]
    exact ⟨rfl, keeps⟩

end Attends

/-! ### What is recorded -/

/-- What is recorded for a lint that has heard some replies: its project, if one of them tells
of a server that is being started. -/
def Records (lint : Lint.Pending) (heard : List Reply) (root? : Option Path) : Prop :=
  ∀ root, root? = some root ↔
    (∃ reply ∈ heard, reply.IsStarting) ∧ lint.config.map Path.parent = some root

/-- What is recorded once a checker has told whether it is starting a server. -/
def recordedWith (lint : Lint.Pending) (root? : Option Path) (starting : Bool) : Option Path :=
  if starting then lint.config.map Path.parent else root?

theorem records_nil (lint : Lint.Pending) :
  Records lint [] none
  := by
  intro root
  simp

namespace Records

variable {lint : Lint.Pending} {heard : List Reply} {root? : Option Path}

/-- If a project is recorded, it is the lint's own. -/
theorem own (records : Records lint heard root?) :
  root? = none ∨ root? = lint.config.map Path.parent
  := by
  cases root? with
  | none => exact .inl rfl
  | some root => exact .inr ((records root).mp rfl).2.symm

theorem snoc (records : Records lint heard root?) {reply : Reply} {starting : Bool}
    (starts : starting = true ↔ reply.IsStarting) :
  Records lint (heard ++ [reply]) (recordedWith lint root? starting)
  := by
  intro root
  have told : (∃ reply' ∈ heard ++ [reply], reply'.IsStarting) ↔
      (∃ reply' ∈ heard, reply'.IsStarting) ∨ starting = true := by
    simp only [List.mem_append, List.mem_singleton, or_and_right, exists_or, exists_eq_left, starts]
  rw [told, recordedWith]
  cases starting with
  | false => simpa using records root
  | true => simp

end Records

/-- A package of a lint records the project whose server is started. -/
theorem Attends.recordServer {settings : Settings} {lint : Lint.Pending} {root? : Option Path}
    {p : Package} (attends : Attends settings lint.document.id root? p)
    (own : root? = none ∨ root? = lint.config.map Path.parent) (starting : Bool) :
  Attends settings lint.document.id (recordedWith lint root? starting)
    (p.recordServer (Request.startedRoot starting lint.config))
  := by
  cases starting with
  | false => exact attends
  | true =>
    have started : Request.startedRoot true lint.config = lint.config.map Path.parent := rfl
    rw [started, recordedWith, if_pos rfl]
    cases config : lint.config.map Path.parent with
    | none =>
      have nothing : root? = none := own.elim id (·.trans config)
      rw [nothing] at attends
      exact attends
    | some root =>
      have added : (p.servers.add root).roots = [root] := by
        rw [Servers.add, attends.roots]
        rcases own with none | same
        · simp [none]
        · simp [same, config, attends.roots]
      exact {
        settings := attends.settings
        isOpen := attends.isOpen
        shows := attends.shows
        empty := attends.empty
        tile := attends.tile
        roots := added }

/-! ### Sessions of a run -/

/-- The lint of a file waits for the checker, and has heard some replies. -/
structure Waiting (settings : Settings) (lint : Lint.Pending) (heard : List Reply)
    (s : Session) : Prop where
  waiting : s.waiting = [0]
  jobs : s.jobs = [(0, .lint lint)]
  replies : s.replies = []
  ended : s.ended = []
  package : ∃ root?, Records lint heard root? ∧ Attends settings lint.document.id root? s.package

/-- The lint of a document is over. -/
structure Over (settings : Settings) (d : String) (result : Lint.Result)
    (report? : Option Report) (root? : Option Path) (s : Session) : Prop where
  waiting : s.waiting = []
  jobs : s.jobs = []
  replies : s.replies = []
  ended : s.ended = [(0, result)]
  package : Keeps settings d report? root? s.package

theorem Over.lintResult {settings : Settings} {d : String} {result : Lint.Result}
    {report? : Option Report} {root? : Option Path} {s : Session}
    (isOver : Over settings d result report? root? s) :
  lintResult s = result
  := by
  rw [CommandLine.lintResult, isOver.ended]
  rfl

/-- Where nobody waits, nobody is asked. -/
theorem converse_of_idle (limit : Nat) (w : World σ) {s : Session} (idle : s.waiting = []) :
  converse limit w s = (w, s)
  := by
  cases limit with
  | zero => rfl
  | succ limit => simp [converse, Session.firstCall?, idle]

/-- A conversation that has come to its end is the same with a greater limit. -/
theorem converse_of_done {limit : Nat} {w : World σ} {s : Session}
    (done : (converse limit w s).2.waiting = []) (more : Nat) :
  converse (limit + more) w s = converse limit w s
  := by
  induction limit generalizing w s with
  | zero => exact converse_of_idle _ w done
  | succ limit ih =>
    rw [Nat.add_right_comm, converse, converse]
    rw [converse] at done
    cases calls : s.firstCall? with
    | none => rfl
    | some call =>
      simp only [calls] at done ⊢
      cases responds :
          ({ s with tree := (w.ask call).2.tree } : Session).respond? 0 (w.ask call).1 with
      | none => rfl
      | some s' =>
        simp only [responds] at done ⊢
        exact ih done

namespace Waiting

variable {settings : Settings} {lint : Lint.Pending} {heard : List Reply} {s : Session}

/-- The tree may change between two calls. -/
theorem changeTree (waits : Waiting settings lint heard s) (tree : FileTree) :
  Waiting settings lint heard { s with tree := tree }
  := ⟨waits.waiting, waits.jobs, waits.replies, waits.ended, waits.package⟩

theorem firstCall (waits : Waiting settings lint heard s) :
  s.firstCall? = some lint.call
  := by simp [Session.firstCall?, waits.waiting, waits.jobs]

theorem respond (waits : Waiting settings lint heard s) (reply : Reply) :
  s.respond? 0 reply = s.answer? 0 reply
  := by simp [Session.respond?, waits.waiting]

/-- A lint that finds the checker busy waits on. -/
theorem respond_of_busy (waits : Waiting settings lint heard s) {reply : Reply}
    (busy : reply.IsBusy) :
  ∃ s', s.respond? 0 reply = some s' ∧ Waiting settings lint (heard ++ [reply]) s'
  := by
  obtain ⟨_, _, -, settles⟩ | ⟨starting, hears, -, starts⟩ := Request.hear_cases reply
  · exact absurd busy settles.not_isBusy
  · obtain ⟨root?, records, attends⟩ := waits.package
    have found : s.jobs.lookup 0 = some (.lint lint) := by simp [waits.jobs]
    have again : lint.hear reply = .busy (Request.startedRoot starting lint.config) := by
      rw [Lint.Pending.hear, hears]
    rw [waits.respond, Session.answer_of_busy found again attends.isOpen waits.replies]
    refine ⟨_, rfl, ?_⟩
    exact {
      waiting := by
        simp [Session.wait, Session.emit, Session.commit, Session.forget, waits.waiting]
      jobs := by simp [Session.wait, Session.emit, Session.commit, Session.forget, waits.jobs]
      replies := rfl
      ended := waits.ended
      package := ⟨_, records.snoc starts, attends.recordServer records.own starting⟩ }

/-- The lint is over with the reply that concludes it. -/
theorem respond_of_concludes (waits : Waiting settings lint heard s) {reply : Reply}
    {result : Lint.Result} {report? : Option Report}
    (concludes : Concludes lint reply result report?) :
  ∃ root? s', s.respond? 0 reply = some s' ∧ Records lint heard root? ∧
    Over settings lint.document.id result report? root? s'
  := by
  obtain ⟨root?, records, attends⟩ := waits.package
  have found : s.jobs.lookup 0 = some (.lint lint) := by simp [waits.jobs]
  obtain ⟨ended, keeps⟩ := attends.hearReply concludes
  rcases hears : s.package.hearReply lint reply with ⟨p, events, step⟩
  rw [hears] at ended keeps
  obtain rfl : step = .ended result := ended
  rw [waits.respond, Session.answer_of_ended found hears]
  refine ⟨root?, _, rfl, records, ?_⟩
  exact {
    waiting := by
      simp [Session.endTask, Session.emit, Session.commit, Session.forget, waits.waiting]
    jobs := by simp [Session.endTask, Session.emit, Session.commit, Session.forget, waits.jobs]
    replies := waits.replies
    ended := by
      simp [Session.endTask, Session.emit, Session.commit, Session.forget, waits.ended]
    package := keeps }

/-- A lint passes over the replies of a busy checker and is over with the one after them. -/
theorem converse (waits : Waiting settings lint heard s) {limit : Nat} {w : World σ}
    {busy : List Reply} {last : Reply} {result : Lint.Result} {report? : Option Report}
    (replies : (w.askTimes lint.call (busy.length + 1)).1 = busy ++ [last])
    (passed : ∀ reply ∈ busy, reply.IsBusy) (concludes : Concludes lint last result report?)
    (enough : busy.length < limit) :
  ∃ root? s', converse limit w s = ((w.askTimes lint.call (busy.length + 1)).2, s') ∧
    Records lint (heard ++ busy) root? ∧ Over settings lint.document.id result report? root? s'
  := by
  -- Each reply takes one call off the limit, and is added to what the lint has heard.
  induction busy generalizing w s heard limit with
  | nil =>
    obtain ⟨limit, rfl⟩ := Nat.exists_eq_succ_of_ne_zero (Nat.ne_of_gt enough)
    have first : (w.ask lint.call).1 = last := (List.cons.inj replies).1
    obtain ⟨root?, s', responds, records, isOver⟩ :=
      (waits.changeTree (w.ask lint.call).2.tree).respond_of_concludes concludes
    rw [converse_of_answer waits.firstCall (first ▸ responds), converse_of_idle _ _ isOver.waiting]
    refine ⟨root?, s', rfl, ?_, isOver⟩
    rw [List.append_nil]
    exact records
  | cons reply busy ih =>
    obtain ⟨limit, rfl⟩ := Nat.exists_eq_succ_of_ne_zero (Nat.ne_of_gt (Nat.zero_lt_of_lt enough))
    rw [List.length_cons, World.askTimes_succ] at replies ⊢
    obtain ⟨first, rest⟩ := List.cons.inj replies
    rw [List.forall_mem_cons] at passed
    obtain ⟨s', responds, waits'⟩ :=
      (waits.changeTree (w.ask lint.call).2.tree).respond_of_busy passed.1
    obtain ⟨root?, s'', ends, records, isOver⟩ :=
      ih waits' rest passed.2 (Nat.lt_of_succ_lt_succ enough)
    rw [converse_of_answer waits.firstCall (first ▸ responds), ends]
    refine ⟨root?, s'', rfl, ?_, isOver⟩
    rw [List.append_assoc] at records
    exact records

end Waiting

/-! ### The lint of a file -/

theorem attends_sessionOf (w : World σ) (file : Path) (settings : Settings) :
  Attends settings file.text none (sessionOf w file settings).package
  where
  settings := rfl
  isOpen := rfl
  shows := by
    have attached : (sessionOf w file settings).package.attached = true := rfl
    have active : (sessionOf w file settings).package.active = some file.text := rfl
    simp [Package.showsReportOf, attached, active]
  empty := rfl
  tile := ⟨_, rfl⟩
  roots := rfl

/-- The lint of a file calls the checker, which is busy with some replies, and then not. -/
structure Talks (w : World σ) (file : Path) (settings : Settings) (lint : Lint.Pending)
    (busy : List Reply) (last : Reply) : Prop where
  begins : (Lint.begin settings (some defaultTimeout) w.tree .empty (.ofFile file.text)).1 =
    .calls lint
  replies : (w.askTimes lint.call (busy.length + 1)).1 = busy ++ [last]
  passed : ∀ reply ∈ busy, reply.IsBusy

theorem lintFile_of_talks {w : World σ} {file : Path} {settings : Settings} {lint : Lint.Pending}
    {busy : List Reply} {last : Reply} (talks : Talks w file settings lint busy last)
    {result : Lint.Result} {report? : Option Report}
    (concludes : Concludes lint last result report?) {limit : Nat}
    (enough : busy.length < limit) :
  ∃ root? s', lintFile limit w file settings =
      ((w.askTimes lint.call (busy.length + 1)).2, s') ∧
    Records lint busy root? ∧ Over settings file.text result report? root? s'
  := by
  rcases begun : Lint.begin settings (some defaultTimeout) w.tree .empty (.ofFile file.text)
    with ⟨step, memo⟩
  obtain rfl : step = .calls lint := by simpa [begun] using talks.begins
  have own : lint.document = .ofFile file.text := (Lint.begin_calls begun).1
  have waits : Waiting settings lint []
      ((sessionOf w file settings).lint (.ofFile file.text)) := by
    rw [(Session.lint_calls (s := sessionOf w file settings) begun).1]
    exact {
      waiting := rfl
      jobs := rfl
      replies := rfl
      ended := rfl
      package := ⟨none, records_nil lint, own ▸ attends_sessionOf w file settings⟩ }
  obtain ⟨root?, s', ends, records, isOver⟩ :=
    waits.converse talks.replies talks.passed concludes enough
  rw [own] at isOver
  exact ⟨root?, s', ends, records, isOver⟩

/-- A lint that ends without a call leaves the world as it is. -/
theorem lintFile_of_ended {w : World σ} {file : Path} {settings : Settings}
    {result : Lint.Result}
    (ended : (Lint.begin settings (some defaultTimeout) w.tree .empty (.ofFile file.text)).1 =
      .ended result) (limit : Nat) :
  ∃ s', lintFile limit w file settings = (w, s') ∧
    Over settings file.text result none none s'
  := by
  rcases begun : Lint.begin settings (some defaultTimeout) w.tree .empty (.ofFile file.text)
    with ⟨step, memo⟩
  obtain rfl : step = .ended result := by simpa [begun] using ended
  have isOver : Over settings file.text result none none
      ((sessionOf w file settings).lint (.ofFile file.text)) := by
    rw [(Session.lint_ended (s := sessionOf w file settings) begun).1]
    exact {
      waiting := rfl
      jobs := rfl
      replies := rfl
      ended := rfl
      package := (attends_sessionOf w file settings).keeps }
  exact ⟨_, converse_of_idle limit w isOver.waiting, isOver⟩

end CommandLine

end TypeCoverage
