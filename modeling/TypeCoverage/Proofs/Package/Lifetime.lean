import TypeCoverage.Proofs.FileTree.Spelling
import TypeCoverage.Proofs.Locator.Installed
import TypeCoverage.Proofs.Package.Escaping
import TypeCoverage.Proofs.Package.Interleaving

/-!
# A lint from its beginning to its end

A lint of a file applies if every file is to be linted, or if the marker of a project stands in
the directory of the file or above it (`Lint.Applies`).  If it does not, it ends with nothing to
show and without a call.  If it does, it calls the checker and waits while the checker is busy,
whatever else is done meanwhile, and ends with the first other reply that it hears
(`Session.Course`).

So a lint of a document that stays open hands over the report that it hears, and its diagnostics
are those that were to be shown when it began (`Session.runsItsCourse`).
-/

namespace TypeCoverage

namespace FileTree

theorem firstWhere_eq_none_iff {test : Path → Except Failure Bool} {ps : List Path} :
  firstWhere test ps = .ok none ↔ ∀ p ∈ ps, test p = .ok false
  := by
  constructor
  · intro none
    induction ps with
    | nil => simp
    | cons p ps ih =>
      rw [firstWhere] at none
      split at none
      · cases none
      · cases none
      · next lacks => exact List.forall_mem_cons.mpr ⟨lacks, ih none⟩
  · intro lack
    rw [← List.append_nil ps, firstWhere_append lack, firstWhere]

end FileTree

namespace Lint

/-! ### Where a lint applies -/

/-- The marker of a project stands in the directory of a file or in one above it. -/
def InProject (t : FileTree) (file : String) : Prop :=
  ∃ n, t.Leads ((Path.parent^[n] (Path.ofText file).parent).join
    (Path.ofText Locator.projectMarker))

/-- A lint of a file calls the checker. -/
def Applies (settings : Settings) (t : FileTree) (file : String) : Prop :=
  settings.onlyIfAppropriate = false ∨ InProject t file

theorem inProject_iff {t : FileTree} {file : String} :
  InProject t file ↔
    ∃ p ∈ Locator.places (Path.ofText file).parent.text Locator.projectMarker, t.Leads p
  := by
  rw [InProject, Locator.places, Path.ofText_text (Path.isSpelled_ofText file).parent,
    Path.ancestors_eq]
  generalize (Path.ofText file).parent = directory
  constructor
  · rintro ⟨n, leads⟩
    -- From the last directory on, the parent of a directory is the directory itself.
    have same : Path.parent^[min n directory.parts.length] directory =
        Path.parent^[n] directory := by
      rw [Path.iterate_parent, Path.iterate_parent]
      congr 2
      omega
    refine ⟨_, List.mem_map.mpr ⟨_, List.mem_map.mpr ⟨min n directory.parts.length, ?_, same⟩, rfl⟩,
      leads⟩
    rw [List.mem_range]
    omega
  · rintro ⟨p, mem, leads⟩
    obtain ⟨d, above, rfl⟩ := List.mem_map.mp mem
    obtain ⟨n, -, rfl⟩ := List.mem_map.mp above
    exact ⟨n, leads⟩

/-- The search for the project of a file finds something if there is something to be found, and
if it does not come to a place that is too long. -/
theorem isSome_walkUpward_iff {t : FileTree} {file : String} {config : Option Path}
    (walks : Locator.walkUpward t (Path.ofText file).parent.text Locator.projectMarker =
      .ok config) :
  config.isSome = true ↔ InProject t file
  := by
  rw [inProject_iff]
  cases config with
  | none =>
    rw [Locator.walkUpward, ← Locator.places, FileTree.firstWhere_eq_none_iff] at walks
    simp only [Option.isSome_none, Bool.false_eq_true, false_iff]
    rintro ⟨p, mem, leads⟩
    exact (FileTree.exists_eq_false_iff.mp (walks p mem)).1 leads
  | some p =>
    obtain ⟨⟨nearer, farther, cut, -⟩, present⟩ := Locator.walkUpward_eq_some_iff.mp walks
    simp only [Option.isSome_some, true_iff]
    refine ⟨p, ?_, FileTree.exists_eq_true_iff.mp present⟩
    rw [cut]
    exact List.mem_append_right _ List.mem_cons_self

section Begin

variable {t : FileTree} {document : Document} {file : String}

/-- A lint of a saved document, of whose project nothing is remembered, calls the checker or ends
with nothing to show. -/
theorem begin_cases (settings : Settings) (timeout : Option Binary64)
    (saved : document.path = some file) (named : file ≠ "")
    (straight : ∀ p, ¬ Strays t .empty document p) :
  (Applies settings t file ∧ ∃ lint, (begin settings timeout t .empty document).1 = .calls lint) ∨
    ¬ Applies settings t file ∧
      (begin settings timeout t .empty document).1 = .ended (.ok (some []))
  := by
  have unknown : Memo.empty.find? ⟨(Path.ofText file).parent.text, Locator.projectMarker⟩ = none :=
    rfl
  rcases walks : Locator.walkUpward t (Path.ofText file).parent.text Locator.projectMarker
    with why | config
  · obtain ⟨p, overlong, -⟩ := Locator.walkUpward_eq_error_iff.mp walks
    exact absurd ⟨file, saved, named, unknown, overlong⟩ (straight p)
  · have found := isSome_walkUpward_iff walks
    rw [Applies, ← found]
    simp only [begin, saved, if_neg named, Locator.findProject, Locator.findUpward, unknown, walks]
    cases settings.onlyIfAppropriate <;> cases config <;> simp

end Begin

end Lint

namespace Package

namespace Ledger

variable {l : Ledger} {past : List Happening} {d : String} {r : Report}

/-- A document that is open stays so until it is closed. -/
theorem not_mem_closed_afterAll (isOpen : d ∉ l.closed) (stays : .closed d ∉ past) :
  d ∉ (past.foldl after l).closed
  := by
  induction past generalizing l with
  | nil => exact isOpen
  | cons h past ih =>
    rw [List.mem_cons, not_or] at stays
    exact ih ((not_mem_closed_after l h d).mpr (.inr ⟨Ne.symm stays.1, isOpen⟩)) stays.2

/-- A report stays cached until its document is closed or another report is offered. -/
theorem get_afterAll (cached : l.cache.get (some d) = some r) (stays : .closed d ∉ past)
    (last : ∀ h ∈ past, ∀ r', ¬ h.Offers d r') :
  (past.foldl after l).cache.get (some d) = some r
  := by
  induction past generalizing l with
  | nil => exact cached
  | cons h past ih =>
    rw [List.mem_cons, not_or] at stays
    rw [List.forall_mem_cons] at last
    apply ih _ stays.2 last.2
    exact (get_after l h d r).mpr
      (.inr ⟨Ne.symm stays.1, fun r' offers => absurd offers (last.1 r'), cached⟩)

end Ledger

variable {p : Package} {lint : Lint.Pending} {reply : Reply}

/-! ### What a lint of an open document hears -/

/-- A lint of an open document calls a busy checker again. -/
theorem hearReply_of_isBusy (isOpen : p.isOpen lint.document.id = true) (busy : reply.IsBusy) :
  ∃ q, p.hearReply lint reply = (q, [], .again) ∧ q.isOpen lint.document.id = true
  := by
  obtain ⟨_, _, -, settles⟩ | ⟨starting, hears, -, -⟩ := Request.hear_cases reply
  · exact absurd busy settles.not_isBusy
  · have again : lint.hear reply = .busy (Request.startedRoot starting lint.config) := by
      rw [Lint.Pending.hear, hears]
    refine ⟨p.recordServer (Request.startedRoot starting lint.config), ?_, ?_⟩
    · rw [hearReply_of_busy p lint again, if_pos isOpen]
    · rw [isOpen_recordServer, isOpen]

/-- A checker that is not busy ends a lint. -/
theorem exists_ended_of_not_isBusy (free : ¬ reply.IsBusy) :
  ∃ result, (p.hearReply lint reply).2.2 = .ended result
  := by
  cases step : (p.hearReply lint reply).2.2 with
  | ended result => exact ⟨result, rfl⟩
  | again => exact absurd (isBusy_of_again step) free

/-- A lint of an open document ends with a result as it hears the reply of a checker that is not
busy. -/
structure EndsWith (p : Package) (lint : Lint.Pending) (reply : Reply) (result : Lint.Result) :
    Prop where
  free : ¬ reply.IsBusy
  isOpen : p.isOpen lint.document.id = true
  ended : (p.hearReply lint reply).2.2 = .ended result

/-- A lint of an open document that ends with a report hands it over. -/
theorem EndsWith.of_report {text : String} {r : Report} {result : Lint.Result}
    (ends : EndsWith p lint (.output text) result) (parsed : Report.parse text = .ok r)
    (writable : r.IsWritable) :
  result = .ok (some (lint.diagnostics r)) ∧
    (p.hearReply lint (.output text)).1.cache.get (some lint.document.id) = some r
  := by
  have brings : (Reply.output text).report? = some r := by
    rw [Reply.report?, parsed]
    rfl
  have shown : (p.keepReport lint.document.id r).result = .ok () := by
    rcases kept : (p.keepReport lint.document.id r).result with why | -
    · have long := (keepReport_eq_error_iff writable.percent?).mp kept
      exact absurd writable (Nat.not_le.mpr long.2.1)
    · rfl
  have heard := hearReply_of_open p lint brings ends.isOpen
  have ended := ends.ended
  rw [heard, shown] at ended
  rw [heard]
  constructor
  · exact (LintStep.ended.inj ended).symm
  · rw [cache_keepReport, Cache.get_set, if_pos rfl]

namespace Session

/-- The replies that a task hears in some happenings. -/
def heardOf (n : Nat) (happenings : List Happening) : List Reply :=
  happenings.filterMap fun
    | .heard task _ reply => if task = n then some reply else none
    | _ => none

variable {n : Nat} {happenings : List Happening}

theorem heardOf_append (n : Nat) (first second : List Happening) :
  heardOf n (first ++ second) = heardOf n first ++ heardOf n second
  := List.filterMap_append

theorem heardOf_cons (n : Nat) (lint : Lint.Pending) (reply : Reply) (later : List Happening) :
  heardOf n (.heard n lint reply :: later) = reply :: heardOf n later
  := List.filterMap_cons_some (if_pos rfl)

theorem heardOf_map (n : Nat) (lint : Lint.Pending) (replies : List Reply) :
  heardOf n (replies.map (.heard n lint)) = replies
  := by
  induction replies with
  | nil => rfl
  | cons reply replies ih => rw [List.map_cons, heardOf_cons, ih]

theorem heardOf_eq_nil (silent : ∀ lint reply, .heard n lint reply ∉ happenings) :
  heardOf n happenings = []
  := by
  rw [heardOf, List.filterMap_eq_nil_iff]
  intro h mem
  cases h with
  | heard task lint reply =>
    apply if_neg
    rintro rfl
    exact silent lint reply mem
  | _ => rfl

/-- A lint of an open document hears the replies that lie ready up to the first one of a checker
that is not busy. -/
theorem heardBy_of_isOpen (isOpen : p.isOpen lint.document.id = true) (n : Nat)
    (replies : List Reply) :
  (endedBy p lint replies = none ∧ heardBy p n lint replies = replies.map (.heard n lint) ∧
      ∀ reply ∈ replies, reply.IsBusy) ∨
    ∃ busy reply rest result, replies = busy ++ reply :: rest ∧
      (∀ other ∈ busy, other.IsBusy) ∧ endedBy p lint replies = some result ∧
      heardBy p n lint replies = busy.map (.heard n lint) ++ [.heard n lint reply] ∧
      EndsWith (p.afterAll (busy.map (.heard n lint))) lint reply result
  := by
  induction replies generalizing p with
  | nil => exact .inl ⟨rfl, rfl, by simp⟩
  | cons reply replies ih =>
    by_cases busy : reply.IsBusy
    · obtain ⟨q, heard, isOpen'⟩ := hearReply_of_isBusy isOpen busy
      have next : p.after (.heard n lint reply) = q := congrArg Prod.fst heard
      simp only [endedBy, heardBy, heard]
      obtain ⟨none, same, all⟩ | ⟨passed, last, rest, result, rfl, all, ended, same, ends⟩ :=
        ih isOpen'
      · refine .inl ⟨none, by rw [same, List.map_cons], List.forall_mem_cons.mpr ⟨busy, all⟩⟩
      · refine .inr ⟨reply :: passed, last, rest, result, rfl,
          List.forall_mem_cons.mpr ⟨busy, all⟩, ended, by rw [same]; rfl, ?_⟩
        rw [List.map_cons, afterAll, List.foldl_cons, next]
        exact ends
    · obtain ⟨result, ended⟩ : ∃ result, (p.hearReply lint reply).2.2 = .ended result :=
        exists_ended_of_not_isBusy busy
      refine .inr ⟨[], reply, replies, result, rfl, by simp, ?_, ?_, ⟨busy, isOpen, ended⟩⟩
      · rcases heard : p.hearReply lint reply with ⟨q, events, step⟩
        rw [heard] at ended
        rw [endedBy, heard, show step = .ended result from ended]
      · rcases heard : p.hearReply lint reply with ⟨q, events, step⟩
        rw [heard] at ended
        rw [heardBy, heard, show step = .ended result from ended]
        rfl

/-! ### The course of a lint -/

/-- How far a lint has come in what has happened to a package: the checker has been busy so far
and the lint waits, or the lint has ended with the first reply of a checker that is not busy. -/
inductive Course (p : Package) (n : Nat) (lint : Lint.Pending) : List Happening → Session → Prop
  | waits {past : List Happening} {s : Session} (busy : ∀ reply ∈ heardOf n past, reply.IsBusy)
    (waits : (n, .lint lint) ∈ s.jobs) : Course p n lint past s
  | finished {before later : List Happening} {s : Session} {reply : Reply} {result : Lint.Result}
    (busy : ∀ reply ∈ heardOf n before, reply.IsBusy)
    (ends : EndsWith (p.afterAll before) lint reply result) (silent : heardOf n later = [])
    (ended : (n, result) ∈ s.ended) : Course p n lint (before ++ .heard n lint reply :: later) s

namespace Course

variable {s : Session} {past : List Happening} {operation : Operation}

/-- A lint that hears replies that lie ready goes on. -/
theorem of_heardBy (busy : ∀ reply ∈ heardOf n past, reply.IsBusy)
    (isOpen : (p.afterAll past).isOpen lint.document.id = true) (replies : List Reply)
    (s : Session) :
  Course p n lint (past ++ heardBy (p.afterAll past) n lint replies)
    (s.conclude n lint (endedBy (p.afterAll past) lint replies))
  := by
  have passed {replies : List Reply} (all : ∀ reply ∈ replies, reply.IsBusy) :
      ∀ reply ∈ heardOf n (past ++ replies.map (.heard n lint)), reply.IsBusy := by
    rw [heardOf_append, heardOf_map]
    exact List.forall_mem_append.mpr ⟨busy, all⟩
  obtain ⟨none, heard, all⟩ | ⟨early, reply, rest, result, -, all, ended, heard, ends⟩ :=
    heardBy_of_isOpen isOpen n replies
  · rw [none, heard]
    exact .waits (passed all) (List.mem_append_right _ List.mem_cons_self)
  · rw [ended, heard, ← List.append_assoc]
    rw [← afterAll_append] at ends
    exact .finished (passed all) ends rfl (List.mem_append_right _ List.mem_cons_self)

theorem begins {document : Document} {memo : Memo}
    (begun : Lint.begin s.package.settings s.timeout s.tree s.memo document = (.calls lint, memo))
    (isOpen : s.package.isOpen document.id = true) :
  Course s.package s.next lint (s.heardAtOnce document) (s.lint document)
  := by
  obtain ⟨own, -⟩ := Lint.begin_calls begun
  obtain ⟨s', -, -, -, concluded⟩ :=
    converse_eq { s with next := s.next + 1, memo := memo } s.next lint s.replies
  rw [(lint_calls begun).1, (lint_calls begun).2, concluded]
  have silent : ∀ reply ∈ heardOf s.next [], reply.IsBusy := by simp [heardOf]
  exact of_heardBy silent (own ▸ isOpen) s.replies s'

/-- Whatever is done, as long as the lint is not cancelled and its document stays open. -/
theorem perform (course : Course p n lint past s) (package : s.package = p.afterAll past)
    (numbered : s.tasks.Numbered) (isOpen : s.package.isOpen lint.document.id = true)
    (runs : operation ≠ .cancel n) :
  Course p n lint (past ++ s.happenings operation) (s.perform operation)
  := by
  have happens (lint' : Lint.Pending) (reply : Reply)
      (mem : .heard n lint' reply ∈ s.happenings operation) :
      .heard n lint' reply ∈ s.history [operation] := List.mem_append_left _ mem
  cases course with
  | @waits past s busy waits =>
    have found := lookup_of_mem_jobs numbered waits
    have given : n < s.next :=
      numbered.below n (List.mem_append_left _ (List.mem_map.mpr ⟨_, waits, rfl⟩))
    by_cases answered : ∃ index reply, operation = .respond index reply ∧
        s.waiting[index]? = some n
    · -- The lint hears the reply, and perhaps others that lie ready.
      obtain ⟨index, reply, rfl, place⟩ := answered
      obtain ⟨s', -, -, -, concluded⟩ := hear_eq (s.forget n) n lint reply
      have performed : s.perform (.respond index reply) =
          s'.conclude n lint (endedBy s.package lint (reply :: s.replies)) := by
        rw [Session.perform, respond?, place, Option.bind_some, answer?, found]
        exact concluded
      have heard : s.happenings (.respond index reply) =
          heardBy s.package n lint (reply :: s.replies) := by
        simp only [happenings, place, heardInReply, found]
      rw [performed, heard, package]
      exact of_heardBy busy (package ▸ isOpen) _ s'
    · have silent : heardOf n (s.happenings operation) = [] := by
        apply heardOf_eq_nil
        intro lint' reply mem
        rcases heard_cases mem with ⟨_, _, -, new, -⟩ | ⟨index, first, rfl, place, -⟩
        · exact absurd given (new ▸ Nat.lt_irrefl _)
        · exact answered ⟨index, first, rfl, place⟩
      rcases waits_perform numbered waits operation with
        waits' | ⟨index, reply, rfl, place, -⟩ | ⟨cancels, -⟩
      · refine .waits ?_ waits'
        rw [heardOf_append, silent, List.append_nil]
        exact busy
      · exact absurd ⟨index, reply, rfl, place⟩ answered
      · exact absurd cancels runs
  | @finished before later s reply result busy ends silent ended =>
    have given : n < s.next :=
      numbered.below n (List.mem_append_right _ (List.mem_map.mpr ⟨_, ended, rfl⟩))
    have silent' : heardOf n (s.happenings operation) = [] := by
      apply heardOf_eq_nil
      intro lint' reply' mem
      have waits := waits_of_history given (happens lint' reply' mem)
      exact (List.nodup_append.mp numbered.nodup).2.2 n (List.mem_map.mpr ⟨_, waits, rfl⟩) n
        (List.mem_map.mpr ⟨_, ended, rfl⟩) rfl
    rw [List.append_assoc, List.cons_append]
    refine .finished busy ends ?_ ((Tasks.Continues.perform s operation).ended ended)
    rw [heardOf_append, silent, silent', List.append_nil]

end Course

/-! ### Documents that stay open -/

theorem closed_of_happens {s : Session} {operation : Operation} {d : String}
    (mem : .closed d ∈ s.happenings operation) :
  operation = .host (.closed d)
  := by
  cases operation with
  | host action =>
    cases action with
    | lint document =>
      simp only [happenings, happeningsOf, heardAtOnce] at mem
      split at mem
      · contradiction
      · obtain ⟨reply, -, same⟩ := mem_heardBy mem
        cases same
    | click => simp only [happenings, happeningsOf] at mem; split at mem <;> simp at mem
    | dismiss index => simp only [happenings, happeningsOf] at mem; split at mem <;> simp at mem
    | _ => simp_all [happenings, happeningsOf]
  | respond index first =>
    simp only [happenings, heardInReply] at mem
    split at mem
    · split at mem
      · obtain ⟨reply, -, same⟩ := mem_heardBy mem
        cases same
      · cases List.mem_singleton.mp mem
      · contradiction
    · contradiction
  | queue replies => contradiction
  | cancel task =>
    simp only [happenings, stoppedBy] at mem
    split at mem
    · simp at mem
    · contradiction

/-- A document that is open stays so in an operation that does not close it. -/
theorem isOpen_perform {s : Session} {operation : Operation} {d : String}
    (isOpen : s.package.isOpen d = true) (stays : operation ≠ .host (.closed d)) :
  (s.perform operation).package.isOpen d = true
  := by
  rw [isOpen_iff] at isOpen ⊢
  rw [package_perform, ledger_afterAll]
  apply Ledger.not_mem_closed_afterAll isOpen
  intro closed
  exact stays (closed_of_happens closed)

/-! ### Runs that begin with a lint -/

/-- Operations neither close a document nor cancel a task. -/
structure LeavesAlone (n : Nat) (d : String) (operations : List Operation) : Prop where
  stays : .host (.closed d) ∉ operations
  runs : .cancel n ∉ operations

section Runs

variable {s : Session} {document : Document} {memo : Memo} {operations : List Operation}

theorem isOpen_run {d : String} (isOpen : s.package.isOpen d = true)
    (stays : .host (.closed d) ∉ operations) :
  (s.run operations).package.isOpen d = true
  := by
  induction operations generalizing s with
  | nil => exact isOpen
  | cons operation operations ih =>
    rw [List.mem_cons, not_or] at stays
    exact ih (isOpen_perform isOpen (Ne.symm stays.1)) stays.2

/-- The course of a lint in a whole run. -/
theorem course_run (numbered : s.tasks.Numbered) (isOpen : s.package.isOpen document.id = true)
    (begun : Lint.begin s.package.settings s.timeout s.tree s.memo document = (.calls lint, memo))
    (alone : LeavesAlone s.next document.id operations) :
  Course s.package s.next lint (s.history (.host (.lint document) :: operations))
    (s.run (.host (.lint document) :: operations))
  := by
  obtain ⟨own, -⟩ := Lint.begin_calls begun
  obtain ⟨stays, runs⟩ := alone
  induction operations using List.reverseRecOn with
  | nil =>
    rw [history, history, List.append_nil]
    exact .begins begun isOpen
  | append_singleton operations operation ih =>
    rw [List.mem_append, not_or] at stays runs
    rw [← List.cons_append, run_concat, history_concat]
    apply (ih stays.1 runs.1).perform
    · apply package_run
    · exact (Tasks.Continues.run s _).numbered numbered
    · rw [own]
      apply isOpen_run isOpen
      simpa using stays.1
    · rintro rfl
      exact runs.2 List.mem_cons_self

theorem closed_of_history {d : String} (mem : .closed d ∈ s.history operations) :
  .host (.closed d) ∈ operations
  := by
  induction operations generalizing s with
  | nil => contradiction
  | cons operation operations ih =>
    rcases List.mem_append.mp mem with now | later
    · rw [closed_of_happens now]
      exact List.mem_cons_self
    · exact List.mem_cons_of_mem _ (ih later)

/-- A lint calls the checker before it hears anything. -/
theorem events_converse (s : Session) (n : Nat) (lint : Lint.Pending) (replies : List Reply) :
  ∃ seen, (s.converse n lint replies).events = s.events ++ .call lint.call :: seen
  := by
  induction replies generalizing s with
  | nil => exact ⟨[], rfl⟩
  | cons reply replies ih =>
    rcases heard : s.package.hearReply lint reply with ⟨q, events, result | _⟩
    · use events
      simp [converse, emit, heard, commit, endTask]
    · obtain ⟨seen, same⟩ :=
        ih (({ s with replies := replies }.emit [.call lint.call]).commit (q, events))
      use events ++ .call lint.call :: seen
      have again : s.converse n lint (reply :: replies) =
          (({ s with replies := replies }.emit [.call lint.call]).commit (q, events)).converse n
            lint replies := by
        simp [converse, emit, heard]
      rw [again, same]
      simp [commit, emit]

end Runs

/-! ### From the beginning to the end -/

/-- The lint that begins a run hears that the checker is busy, any number of times, and then a
text that is a report whose count of expressions can be written. -/
structure Hears (s : Session) (document : Document) (operations : List Operation) (text : String)
    (r : Report) : Prop where
  heard : ∃ busy rest, heardOf s.next (s.history (.host (.lint document) :: operations)) =
    busy ++ .output text :: rest ∧ ∀ reply ∈ busy, reply.IsBusy
  parsed : Report.parse text = .ok r
  writable : r.IsWritable

/-- The lint that begins a run has handed over a report. -/
structure HandsOver (s : Session) (document : Document) (file : String)
    (operations : List Operation) (text : String) (r : Report) : Prop where
  /-- Whether the regions are shown has been decided by the settings with which it began. -/
  result : (s.next, .ok (some (if s.package.settings.showUncovered then
      r.regions.map (·.diagnostic file) else []))) ∈
    (s.run (.host (.lint document) :: operations)).ended
  /-- The report is cached as soon as the text has been heard, which is the last that the lint
  hears, and stays cached as long as no lint of the document offers another one. -/
  cached : ∃ past lint later,
    s.history (.host (.lint document) :: operations) =
        past ++ .heard s.next lint (.output text) :: later ∧
      heardOf s.next later = [] ∧
      (s.package.afterAll (past ++ [.heard s.next lint (.output text)])).cache.get
        (some document.id) = some r ∧
      ((∀ h ∈ later, ∀ r', ¬ h.Offers document.id r') →
        (s.run (.host (.lint document) :: operations)).package.cache.get
          (some document.id) = some r)

/-- What is certain of a lint of a saved document that is open, whatever is done to the session
afterwards, except that the document is closed or the lint is cancelled. -/
structure RunsItsCourse (s : Session) (document : Document) (file : String) : Prop where
  /-- The checker is called if and only if the lint applies. -/
  called_iff : ∃ seen, (s.lint document).events = s.events ++ seen ∧
    ((∃ call, .call call ∈ seen) ↔ Lint.Applies s.package.settings s.tree file)
  /-- Otherwise there is nothing to show, and nothing has happened to the package. -/
  skipped : ¬ Lint.Applies s.package.settings s.tree file →
    (s.lint document).ended = s.ended ++ [(s.next, .ok (some []))] ∧
      (s.lint document).package = s.package ∧ (s.lint document).events = s.events
  /-- As long as it hears only that the checker is busy, the lint waits, and it hears whatever it
  is answered then. -/
  waits : Lint.Applies s.package.settings s.tree file →
    ∀ operations, LeavesAlone s.next document.id operations →
      (∀ reply ∈ heardOf s.next (s.history (.host (.lint document) :: operations)),
        reply.IsBusy) →
      ∃ lint, (s.run (.host (.lint document) :: operations)).jobs.lookup s.next =
          some (.lint lint) ∧
        ∀ reply, ∃ later, (s.run (.host (.lint document) :: operations)).heardInReply s.next
          reply = .heard s.next lint reply :: later
  /-- Of replies that lie ready it hears all up to the first text. -/
  ready : Lint.Applies s.package.settings s.tree file →
    ∀ busy text rest, s.replies = busy ++ .output text :: rest →
      (∀ reply ∈ busy, reply.IsBusy) →
      heardOf s.next (s.history [.host (.lint document)]) = busy ++ [.output text]
  /-- With the first text that is a report it hands the report over. -/
  handsOver : Lint.Applies s.package.settings s.tree file →
    ∀ operations text r, LeavesAlone s.next document.id operations →
      s.Hears document operations text r → s.HandsOver document file operations text r
  /-- A diagnostic has the positions of its region, and names the source of the region unless
  this is missing or empty. -/
  marks : ∀ region : Region, (region.diagnostic file).range = region ∧
    (region.diagnostic file).file =
      if region.source.getD "" = "" then file else region.source.getD ""

/-- A lint of an open document hears the replies that lie ready up to the first text. -/
theorem heardOf_heardBy (isOpen : p.isOpen lint.document.id = true) (n : Nat) {busy : List Reply}
    (passed : ∀ reply ∈ busy, reply.IsBusy) (text : String) (rest : List Reply) :
  heardOf n (heardBy p n lint (busy ++ .output text :: rest)) = busy ++ [.output text]
  := by
  have free := Request.Settles.not_isBusy (.output text)
  obtain ⟨-, -, all⟩ | ⟨busy', reply, rest', result, same, passed', -, heard, ends⟩ :=
    heardBy_of_isOpen isOpen n (busy ++ .output text :: rest)
  · exact absurd (all _ (List.mem_append_right _ List.mem_cons_self)) free
  · obtain ⟨rfl, rfl, -⟩ := first_cut_unique passed passed' free ends.free same
    rw [heard, heardOf_append, heardOf_map, heardOf_cons]
    rfl

/-- A lint that has heard only that the checker is busy waits, and hears what it is answered. -/
theorem Course.lookup_of_busy {s : Session} {past : List Happening}
    (course : Course p n lint past s) (numbered : s.tasks.Numbered)
    (busy : ∀ reply ∈ heardOf n past, reply.IsBusy) :
  s.jobs.lookup n = some (.lint lint) ∧
    ∀ reply, ∃ later, s.heardInReply n reply = .heard n lint reply :: later
  := by
  cases course with
  | waits _ waits =>
    have found := lookup_of_mem_jobs numbered waits
    refine ⟨found, fun reply => ?_⟩
    simp only [heardInReply, found, heardBy]
    exact ⟨_, rfl⟩
  | finished _ ends _ _ =>
    rw [heardOf_append, heardOf_cons] at busy
    exact absurd (busy _ (List.mem_append_right _ List.mem_cons_self)) ends.free

/-- A lint whose course comes to a text that is a report hands it over. -/
theorem Course.handsOver {s : Session} {document : Document} {file : String}
    {operations : List Operation} {text : String} {r : Report}
    (course : Course s.package s.next lint (s.history (.host (.lint document) :: operations))
      (s.run (.host (.lint document) :: operations)))
    (own : lint.document = document)
    (shows : lint.diagnostics r =
      if s.package.settings.showUncovered then r.regions.map (·.diagnostic file) else [])
    (stays : .host (.closed document.id) ∉ operations)
    (hears : s.Hears document operations text r) :
  s.HandsOver document file operations text r
  := by
  obtain ⟨busy, rest, heard, passed⟩ := hears.heard
  have free := Request.Settles.not_isBusy (.output text)
  generalize happened : s.history (.host (.lint document) :: operations) = past at course
  generalize reached : s.run (.host (.lint document) :: operations) = s' at course
  rw [happened] at heard
  cases course with
  | waits busy' _ =>
    rw [heard] at busy'
    exact absurd (busy' _ (List.mem_append_right _ List.mem_cons_self)) free
  | @finished before later _ reply result busy' ends silent ended =>
    rw [heardOf_append, heardOf_cons] at heard
    obtain ⟨-, rfl, -⟩ := first_cut_unique busy' passed ends.free free heard
    obtain ⟨rfl, cached⟩ := ends.of_report hears.parsed hears.writable
    have now : (s.package.afterAll (before ++ [.heard s.next lint (.output text)])).cache.get
        (some document.id) = some r := by
      rw [afterAll_append, ← own]
      exact cached
    constructor
    case result =>
      rw [reached, ← shows]
      exact ended
    case cached =>
      refine ⟨before, lint, later, happened, silent, now, fun last => ?_⟩
      have spared : .closed document.id ∉ later := by
        intro closed
        have mem : .closed document.id ∈ s.history (.host (.lint document) :: operations) := by
          rw [happened]
          exact List.mem_append_right _ (List.mem_cons_of_mem _ closed)
        rcases List.mem_cons.mp (closed_of_history mem) with same | mem
        · cases same
        · exact stays mem
      rw [package_run, happened, List.append_cons, afterAll_append]
      change Cache.get (ledger _).cache _ = _
      rw [ledger_afterAll]
      exact Ledger.get_afterAll now spared last

/-- What a lint comes to, in every run that begins with it. -/
theorem runsItsCourse (settings : Settings) (tree : FileTree) (timeout : Option Binary64)
    {before : List Operation} {document : Document} {file : String}
    (truthful : ((start settings tree timeout).run before).memo.Truthful
      ((start settings tree timeout).run before).tree)
    (isOpen : ((start settings tree timeout).run before).package.isOpen document.id = true)
    (saved : document.path = some file) (named : file ≠ "")
    (straight : ∀ p,
      ¬ Lint.Strays ((start settings tree timeout).run before).tree .empty document p) :
  RunsItsCourse ((start settings tree timeout).run before) document file
  := by
  have numbered : ((start settings tree timeout).run before).tasks.Numbered :=
    (Tasks.Continues.run _ before).numbered (numbered_start ..)
  generalize (start settings tree timeout).run before = s at *
  obtain ⟨memo, begun, -⟩ :=
    Lint.begin_of_truthful truthful s.package.settings s.timeout document
  have begins := Lint.begin_cases s.package.settings s.timeout saved named straight
  have marks (region : Region) : (region.diagnostic file).range = region ∧
      (region.diagnostic file).file =
        if region.source.getD "" = "" then file else region.source.getD "" := by
    refine ⟨rfl, ?_⟩
    rw [Region.diagnostic, Region.fileIn]
    cases region.source <;> simp
  rcases begins with ⟨applies, lint, calls⟩ | ⟨idle, ends⟩
  · rw [calls] at begun
    obtain ⟨own, -⟩ := Lint.begin_calls begun
    obtain ⟨file', config, executable, saved', same⟩ := Lint.begin_calls_eq begun
    obtain rfl : file' = file := Option.some.inj (saved'.symm.trans saved)
    constructor
    case called_iff =>
      obtain ⟨seen, events⟩ := events_converse { s with next := s.next + 1, memo := memo } s.next
        lint s.replies
      refine ⟨_, (congrArg Session.events (lint_calls begun).1).trans events, ?_⟩
      exact ⟨fun _ => applies, fun _ => ⟨_, List.mem_cons_self⟩⟩
    case skipped => exact fun idle => absurd applies idle
    case waits =>
      intro _ operations alone busy
      have course := course_run numbered isOpen begun alone
      have continues := Tasks.Continues.run s (.host (.lint document) :: operations)
      exact ⟨lint, course.lookup_of_busy (continues.numbered numbered) busy⟩
    case ready =>
      intro _ busy text rest lie passed
      rw [history, history, List.append_nil]
      change heardOf s.next (s.heardAtOnce document) = _
      rw [(lint_calls begun).2, lie]
      exact heardOf_heardBy (own ▸ isOpen) s.next passed text rest
    case handsOver =>
      intro _ operations text r alone hears
      apply (course_run numbered isOpen begun alone).handsOver own _ alone.stays hears
      rw [same]
      rfl
    case marks => exact marks
  · rw [ends] at begun
    have skips := (lint_ended begun).1
    constructor
    case called_iff =>
      refine ⟨[], by rw [skips]; exact (List.append_nil _).symm, ?_⟩
      simp [idle]
    case skipped =>
      rw [skips]
      exact fun _ => ⟨rfl, rfl, rfl⟩
    case marks => exact marks
    all_goals exact fun applies => absurd applies idle

/-- Settings with which only the files of projects are linted, and regions are shown. -/
def projectSettings : Settings :=
  { sampleSettings with onlyIfAppropriate := true, showUncovered := true }

/-- A report with two regions, of which the second names the source that it lies in. -/
def regionsSample : Report :=
  ⟨3, 2, [⟨⟨1, 2⟩, ⟨1, 5⟩, none⟩, ⟨⟨4, 1⟩, ⟨5, 3⟩, some "b.js"⟩]⟩

/-- The replies of a checker that is busy and then finds the report. -/
def patientSample : List Operation :=
  [.queue [busySample, .output (regionsSample.toJson.render .oneLine)]]

theorem straight_projectSample (p : Path) :
  ¬ Lint.Strays projectSample .empty sampleDocument p
  := by
  rintro ⟨file, saved, -, -, overlong⟩
  obtain rfl : "/a.js" = file := Option.some.inj saved
  have directory : (Path.ofText "/a.js").parent.text = "/" := by decide +kernel
  rw [directory] at overlong
  have fails := Locator.walkUpward_eq_error_iff.mpr ⟨p, overlong, rfl⟩
  rw [walkUpward_projectSample] at fails
  cases fails

theorem inProject_projectSample :
  Lint.InProject projectSample "/a.js"
  := by
  have directory : (Path.ofText "/a.js").parent.text = "/" := by decide +kernel
  have walks := walkUpward_projectSample
  rw [← directory] at walks
  exact (Lint.isSome_walkUpward_iff walks).mp rfl

/-- The lint of a file in a project passes over a busy checker and hands over a report. -/
theorem runsItsCourse_patientSample :
  let s := (start projectSettings projectSample none).run patientSample
  s.memo.Truthful s.tree ∧ s.package.isOpen sampleDocument.id = true ∧
    sampleDocument.path = some "/a.js" ∧ "/a.js" ≠ "" ∧
    (∀ p, ¬ Lint.Strays s.tree .empty sampleDocument p) ∧
    RunsItsCourse s sampleDocument "/a.js" ∧
    s.HandsOver sampleDocument "/a.js" [] (regionsSample.toJson.render .oneLine)
      regionsSample ∧
    (s.next, .ok (some
        [⟨"/a.js", ⟨⟨1, 2⟩, ⟨1, 5⟩, none⟩, .info, "Uncovered code", "flow-coverage"⟩,
          ⟨"b.js", ⟨⟨4, 1⟩, ⟨5, 3⟩, some "b.js"⟩, .info, "Uncovered code",
            "flow-coverage"⟩])) ∈
      (s.run [.host (.lint sampleDocument)]).ended
  := by
  intro s
  have truthful : s.memo.Truthful s.tree := Memo.Truthful.empty _
  have course : RunsItsCourse s sampleDocument "/a.js" :=
    runsItsCourse projectSettings projectSample none truthful rfl rfl (by decide)
      straight_projectSample
  have applies : Lint.Applies s.package.settings s.tree "/a.js" := .inr inProject_projectSample
  have busy : ∀ reply ∈ [busySample], reply.IsBusy := by
    obtain ⟨lint, -, -⟩ := begin_projectSample
    have notice : lint.hear busySample = .busy none := rfl
    simpa using lint.isBusy_of_hear notice
  have heard := course.ready applies [busySample] (regionsSample.toJson.render .oneLine) [] rfl
    busy
  have hears : s.Hears sampleDocument [] (regionsSample.toJson.render .oneLine) regionsSample :=
    { heard := ⟨_, [], heard, busy⟩
      parsed := Report.parse_render_of_areShort (by decide +kernel) .oneLine
      writable := by
        rw [Report.IsWritable]
        decide +kernel }
  have handsOver := course.handsOver applies [] _ _ ⟨by simp, by simp⟩ hears
  exact ⟨truthful, rfl, rfl, by decide, straight_projectSample, course, handsOver,
    handsOver.result⟩

end Session

end Package

end TypeCoverage
