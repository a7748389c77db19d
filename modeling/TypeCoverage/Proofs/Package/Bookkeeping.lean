import TypeCoverage.Proofs.Package.Provenance
import TypeCoverage.Proofs.Package.Tasks
import TypeCoverage.Proofs.Report.RoundTrip

/-!
# The cache over whole runs

`Session.Bookkeeping` says what a run makes of the cache: no closed document is cached or
active, the cached reports are the last ones that lints brought, and a lint that fails, is
superseded or is cancelled has changed nothing, whatever it heard before.

The last point needs tasks to be told apart.  A lint hears many replies, but only the reply
that ends it can change the cache (`endedBy_of_changed`), and it then has a result that
says so (`Lint.HandsOver`).
-/

namespace TypeCoverage

/-- The results of lints that hand over a report: with its diagnostics, or because the tile
cannot show it. -/
def Lint.HandsOver (result : Lint.Result) : Prop :=
  (∃ diagnostics, result = .ok (some diagnostics)) ∨ result = .error (.badValue none)

/-- The results of lints that hand over nothing: they were superseded or given up, failed
or were cancelled. -/
def Lint.BringsNothing (result : Lint.Result) : Prop :=
  result = .ok none ∨ (∃ why, result = .error (.fault why)) ∨ result = .error .cancelled

theorem Lint.BringsNothing.not_handsOver {result : Lint.Result} (h : Lint.BringsNothing result) :
  ¬ Lint.HandsOver result
  := by
  rcases h with rfl | ⟨why, rfl⟩ | rfl <;> simp [HandsOver]

/-- A report that a reply brings has been read, and so it has a percentage. -/
theorem Reply.percent?_of_report? {reply : Reply} {r : Report}
    (brings : reply.report? = some r) :
  r.percent? = some r.percent
  := by
  obtain ⟨text, -, parsed⟩ := Reply.parse_of_report? brings
  exact Report.percent?_of_areShort (Report.areShort_of_parse parsed)

namespace Package

theorem keepReport_result (p : Package) (d : String) {r : Report} {n : Nat}
    (percent : r.percent? = some n) :
  (p.keepReport d r).result = .ok () ∨ (p.keepReport d r).result = .error (.badValue none)
  := by
  unfold keepReport
  simp only
  split
  · rw [paint, Tile.reportCalls, Report.summary?, percent, Option.map_some]
    simp only
    split
    · apply Or.inr rfl
    · apply Or.inl rfl
  · apply Or.inl rfl

/-- A reply that changes the cache ends its lint, which hands over a report. -/
theorem handsOver_of_changed {p : Package} {lint : Lint.Pending} {reply : Reply}
    (changed : (p.hearReply lint reply).1.cache ≠ p.cache) :
  ∃ result, (p.hearReply lint reply).2.2 = .ended result ∧ Lint.HandsOver result
  := by
  cases brings : reply.report? with
  | none =>
    apply absurd _ changed
    apply congrArg View.cache (view_hearReply p lint brings)
  | some r =>
    cases isOpen : p.isOpen lint.document.id with
    | false =>
      rw [hearReply_of_closed p lint brings isOpen] at changed
      contradiction
    | true =>
      rw [hearReply_of_open p lint brings isOpen]
      refine ⟨_, rfl, ?_⟩
      rcases keepReport_result p lint.document.id (reply.percent?_of_report? brings) with
        done | failed
      · rw [done]
        apply Or.inl ⟨_, rfl⟩
      · rw [failed]
        apply Or.inr rfl

/-- A lint touches only the entry of its own document. -/
theorem get_heard_of_ne (p : Package) (task : Nat) (lint : Lint.Pending) (reply : Reply)
    {d : String} (other : d ≠ lint.document.id) :
  (p.after (.heard task lint reply)).cache.get (some d) = p.cache.get (some d)
  := by
  change (p.after (.heard task lint reply)).ledger.cache.get (some d) = p.ledger.cache.get (some d)
  rw [ledger_after]
  unfold Ledger.after
  simp only
  split
  · unfold Ledger.take
    split
    · rfl
    · rw [Cache.get_set, if_neg other]
  · rfl

namespace Session

/-- Of the replies that a lint hears one after another, only the one that ends it can change
the cache. -/
theorem endedBy_of_changed {p : Package} {task task' : Nat} {lint lint' : Lint.Pending}
    {reply : Reply} {replies : List Reply} {before later : List Happening}
    (cut : heardBy p task lint replies = before ++ .heard task' lint' reply :: later)
    (changed : ((p.afterAll before).after (.heard task' lint' reply)).cache ≠
      (p.afterAll before).cache) :
  ∃ result, endedBy p lint replies = some result ∧ Lint.HandsOver result
  := by
  induction replies generalizing p before with
  | nil => simp [heardBy] at cut
  | cons first replies ih =>
    cases before with
    | nil =>
      rw [heardBy, List.nil_append] at cut
      obtain ⟨-, rfl, rfl⟩ := Happening.heard.inj (List.head_eq_of_cons_eq cut)
      obtain ⟨result, ended, handsOver⟩ := handsOver_of_changed (p := p) changed
      refine ⟨result, ?_, handsOver⟩
      rcases heard : p.hearReply lint first with ⟨q, events, step⟩
      rw [heard] at ended
      simp only [endedBy, heard, show step = .ended result from ended]
    | cons h before =>
      rcases heard : p.hearReply lint first with ⟨q, events, result | _⟩
      · simp [heardBy, heard] at cut
      · simp only [heardBy, heard, List.cons_append, List.cons.injEq] at cut
        obtain ⟨rfl, cut⟩ := cut
        have same : p.after (.heard task lint first) = q := by simp [after, heard]
        simp only [afterAll, List.foldl_cons, same] at changed
        obtain ⟨result, ended, handsOver⟩ := ih cut changed
        exact ⟨result, by simpa [endedBy, heard] using ended, handsOver⟩

/-- A lint that has changed the cache has ended and has handed over a report. -/
theorem handsOver_of_history {s : Session} {operations : List Operation}
    {task : Nat} {lint : Lint.Pending} {reply : Reply} {before later : List Happening}
    (cut : s.history operations = before ++ .heard task lint reply :: later)
    (changed : ((s.package.afterAll before).after (.heard task lint reply)).cache ≠
      (s.package.afterAll before).cache) :
  ∃ result, (task, result) ∈ (s.run operations).ended ∧ Lint.HandsOver result
  := by
  induction operations generalizing s before with
  | nil => simp [history] at cut
  | cons operation operations ih =>
    rcases append_eq_cut_iff.mp cut with ⟨rest, now, -⟩ | ⟨rest, rfl, later_cut⟩
    · have mem : .heard task lint reply ∈ s.happenings operation := by simp [now]
      obtain ⟨replies, s', -, same, concluded⟩ := heard_conclude mem
      rw [same] at now
      obtain ⟨result, ended, handsOver⟩ := endedBy_of_changed now changed
      refine ⟨result, ?_, handsOver⟩
      apply (Tasks.Continues.run (s.perform operation) operations).ended
      rw [concluded, ended]
      apply List.mem_append_right _ List.mem_cons_self
    · rw [afterAll_append, ← package_perform] at changed
      apply ih later_cut changed

/-! ### Which lint a task is -/

/-- A task that has a number already hears replies only if it waits for them. -/
theorem waits_of_history {s : Session} {operations : List Operation} {task : Nat}
    {lint : Lint.Pending} {reply : Reply} (old : task < s.next)
    (mem : .heard task lint reply ∈ s.history operations) :
  (task, .lint lint) ∈ s.jobs
  := by
  induction operations generalizing s with
  | nil => contradiction
  | cons operation operations ih =>
    rcases List.mem_append.mp mem with now | later
    · rcases heard_cases now with ⟨_, _, _, rfl, _⟩ | ⟨_, _, _, _, found⟩
      · exact absurd old (Nat.lt_irrefl _)
      · apply mem_jobs_of_lookup found
    · have continues := Tasks.Continues.perform s operation
      have waits := ih (Nat.lt_of_lt_of_le old continues.next) later
      rcases continues.lints task lint waits with mem | ⟨new, -⟩
      · apply mem
      · exact absurd old (Nat.not_lt_of_le new)

/-- A task that hears replies has been given its number. -/
theorem below_of_history {s : Session} (numbered : s.tasks.Numbered) {operations : List Operation}
    {task : Nat} {lint : Lint.Pending} {reply : Reply}
    (mem : .heard task lint reply ∈ s.history operations) :
  task < (s.run operations).next
  := by
  induction operations generalizing s with
  | nil => contradiction
  | cons operation operations ih =>
    have continues := Tasks.Continues.perform s operation
    rcases List.mem_append.mp mem with now | later
    · obtain ⟨replies, s', -, -, concluded⟩ := heard_conclude now
      have given : task ∈ (s.perform operation).tasks.numbers := by
        rw [concluded]
        cases endedBy s.package lint replies with
        | none => apply (numbers_wait ..).mem_iff.mpr List.mem_cons_self
        | some result => apply (numbers_endTask ..).mem_iff.mpr List.mem_cons_self
      apply Nat.lt_of_lt_of_le ((continues.numbered numbered).below task given)
      apply (Tasks.Continues.run (s.perform operation) operations).next
    · apply ih (continues.numbered numbered) later

/-- A lint that waits after its beginning is the one that has begun. -/
theorem begin_of_waits {s : Session} (numbered : s.tasks.Numbered) {document : Document}
    {lint : Lint.Pending} (waits : (s.next, .lint lint) ∈ (s.lint document).jobs) :
  ∃ memo, Lint.begin s.package.settings s.timeout s.tree s.memo document = (.calls lint, memo)
  := by
  have old (job : Job) (mem : (s.next, job) ∈ s.jobs) : False := by
    apply Nat.lt_irrefl s.next (numbered.below s.next _)
    apply List.mem_append_left _ (List.mem_map.mpr ⟨_, mem, rfl⟩)
  rcases s.lint_cases document with ⟨_, _, -, ended, -⟩ | ⟨lint', memo, s', begun, same, -, -, heard⟩
  · rw [ended] at waits
    exact (old _ waits).elim
  · have jobs : s'.jobs = s.jobs := congrArg Tasks.jobs same
    rw [heard] at waits
    cases ended : endedBy s.package lint' s.replies with
    | none =>
      rw [ended] at waits
      rcases List.mem_append.mp waits with mem | new
      · rw [jobs] at mem
        exact (old _ mem).elim
      · obtain ⟨-, lints⟩ := Prod.mk.inj (List.mem_singleton.mp new)
        obtain rfl := Job.lint.inj lints
        exact ⟨memo, begun⟩
    | some result =>
      rw [ended] at waits
      have mem : (s.next, Job.lint lint) ∈ s'.jobs := waits
      rw [jobs] at mem
      exact (old _ mem).elim

theorem next_lint (s : Session) (document : Document) :
  (s.lint document).next = s.next + 1
  := by
  rcases s.lint_cases document with ⟨_, _, -, ended, -⟩ | ⟨lint, _, s', -, same, -, -, heard⟩
  · rw [ended]
    rfl
  · have next : s'.next = s.next + 1 := congrArg Tasks.next same
    rw [heard, ← next]
    cases endedBy s.package lint s.replies <;> rfl

/-- What a lint of a document hears in a run, it hears as it began. -/
theorem begin_of_history {s : Session} (numbered : s.tasks.Numbered)
    {before after : List Operation} {document : Document} {lint : Lint.Pending} {reply : Reply}
    (mem : .heard (s.run before).next lint reply ∈
      s.history (before ++ .host (.lint document) :: after)) :
  ∃ memo, Lint.begin (s.run before).package.settings (s.run before).timeout (s.run before).tree
    (s.run before).memo document = (.calls lint, memo)
  := by
  rw [history_append, history] at mem
  have numbered' := (Tasks.Continues.run s before).numbered numbered
  rcases List.mem_append.mp mem with early | mem
  · exact absurd (below_of_history numbered early) (Nat.lt_irrefl _)
  · rcases List.mem_append.mp mem with now | later
    · rcases heard_cases now with ⟨_, memo, same, -, begun⟩ | ⟨_, _, same, -⟩
      · obtain rfl := Action.lint.inj (Operation.host.inj same)
        exact ⟨memo, begun⟩
      · contradiction
    · apply begin_of_waits numbered'
      apply waits_of_history _ later
      apply Nat.lt_of_lt_of_eq (Nat.lt_succ_self _) (next_lint ..).symm

/-! ### The cache -/

/-- What a run of a session makes of the cache: `s` is the session after the operations,
and `past` what has happened to the package. -/
structure Bookkeeping (first : Session) (operations : List Operation) (s : Session)
    (past : List Happening) : Prop where
  /-- Nothing else has happened to the package. -/
  package : s.package = first.package.afterAll past
  /-- A document is closed if it has been closed and not been opened since. -/
  closed : ∀ d, d ∉ s.package.closed ↔ IsOpenAfter past d
  /-- No closed document has a report. -/
  vacant : ∀ d ∈ s.package.closed, s.package.cache.get (some d) = none
  /-- The active document is not closed. -/
  present : ∀ d, s.package.active = some d → d ∉ s.package.closed
  /-- The report of a document is the last one that a lint brought while the document was
  open, unless the document has been closed since. -/
  cached : ∀ d r, s.package.cache.get (some d) = some r ↔ LastReport past d r
  /-- A lint hears what it hears for the document with which it began, and one that began
  without a call of the checker hears nothing. -/
  begun : ∀ before after document, operations = before ++ .host (.lint document) :: after →
    ∀ lint reply, .heard (first.run before).next lint reply ∈ past →
      lint.document = document ∧
        (Lint.begin (first.run before).package.settings (first.run before).timeout
          (first.run before).tree (first.run before).memo document).1 = .calls lint
  /-- Whatever a lint hears, the entries of other documents stay. -/
  foreign : ∀ before task lint reply later, past = before ++ .heard task lint reply :: later →
    ∀ d, d ≠ lint.document.id →
      ((first.package.afterAll before).after (.heard task lint reply)).cache.get (some d) =
        (first.package.afterAll before).cache.get (some d)
  /-- A task ends once. -/
  once : ∀ task result other, (task, result) ∈ s.ended → (task, other) ∈ s.ended → result = other
  /-- Whatever a lint has heard that ended with nothing, all entries have stayed. -/
  spared : ∀ task result, (task, result) ∈ s.ended → Lint.BringsNothing result →
    ∀ before lint reply later, past = before ++ .heard task lint reply :: later →
      ((first.package.afterAll before).after (.heard task lint reply)).cache =
        (first.package.afterAll before).cache

/-- Every run keeps the books. -/
theorem bookkeeping (settings : Settings) (tree : FileTree) (timeout : Option Binary64)
    (operations : List Operation) :
  Bookkeeping (start settings tree timeout) operations
    ((start settings tree timeout).run operations)
    ((start settings tree timeout).history operations)
  := by
  have package := package_run (start settings tree timeout) operations
  have ledger : ((start settings tree timeout).run operations).package.ledger =
      ((start settings tree timeout).history operations).foldl Ledger.after
        (ofSettings settings).ledger := by
    rw [package]
    apply ledger_afterAll
  have tidy : ((start settings tree timeout).run operations).package.ledger.Tidy := by
    rw [ledger]
    apply (tidy_ofSettings settings).afterAll
  have first := numbered_start settings tree timeout
  have numbered := (Tasks.Continues.run _ operations).numbered first
  constructor
  · apply package
  · intro d
    rw [← Ledger.closed_iff (l := (ofSettings settings).ledger) rfl, ← ledger]
    rfl
  · apply tidy.vacant
  · apply tidy.present
  · intro d r
    rw [← Ledger.get_iff (l := (ofSettings settings).ledger) rfl rfl, ← ledger]
    rfl
  · rintro before after document rfl lint reply mem
    obtain ⟨memo, begun⟩ := begin_of_history first mem
    rw [begun]
    exact ⟨(Lint.begin_calls begun).1, rfl⟩
  · intro before task lint reply later _ d other
    apply get_heard_of_ne _ _ _ _ other
  · intro task result other mem mem'
    apply numbered.result_unique mem mem'
  · intro task result ended nothing before lint reply later cut
    by_contra changed
    obtain ⟨other, ended', handsOver⟩ := handsOver_of_history cut changed
    obtain rfl := numbered.result_unique ended ended'
    apply nothing.not_handsOver handsOver

end Session

end Package

end TypeCoverage
