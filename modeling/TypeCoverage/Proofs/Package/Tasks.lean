import Mathlib.Data.List.Nodup
import Mathlib.Data.List.Perm.Subperm
import TypeCoverage.Proofs.Package.Run

/-!
# Tasks of a session

Each task has a number of its own, under which it stands among those that run or, once it
has ended, among the results (`Tasks.Numbered`).  Every operation keeps this, because it
moves numbers or drops them, and gives out only the next ones (`Tasks.Continues.perform`).
Results are never taken back, and a task that lints goes on with what it began with
(`Tasks.Continues`).
-/

namespace TypeCoverage

/-- A lint calls the checker under the key of its document. -/
def Lint.Pending.IsKeyed (lint : Lint.Pending) : Prop :=
  lint.call.uniqueKey = some (uniqueKey lint.document.id)

/-- A lint that calls the checker does so for the path of its document, and keeps the
settings that it began with. -/
theorem Lint.begin_calls_eq {settings : Settings} {timeout : Option Binary64} {tree : FileTree}
    {memo memo' : Memo} {document : Document} {lint : Lint.Pending}
    (begun : Lint.begin settings timeout tree memo document = (.calls lint, memo')) :
  ∃ file config executable, document.path = some file ∧
    lint = ⟨document, file, settings.showUncovered, config,
      coverageCall executable file document.id timeout⟩
  := by
  rw [Lint.begin] at begun
  split at begun
  · simp at begun
  · next file saved =>
    simp only at begun
    split at begun
    · simp at begun
    · split at begun
      · simp at begun
      · split at begun
        · simp at begun
        · obtain ⟨begun, -⟩ := Prod.mk.inj begun
          obtain rfl := Begun.calls.inj begun
          exact ⟨file, _, _, saved, rfl⟩

/-- A lint that calls the checker does so for its document, under its key. -/
theorem Lint.begin_calls {settings : Settings} {timeout : Option Binary64} {tree : FileTree}
    {memo memo' : Memo} {document : Document} {lint : Lint.Pending}
    (begun : Lint.begin settings timeout tree memo document = (.calls lint, memo')) :
  lint.document = document ∧ lint.IsKeyed
  := by
  obtain ⟨_, _, _, -, rfl⟩ := Lint.begin_calls_eq begun
  exact ⟨rfl, rfl⟩

namespace Package.Session

/-- The numbers of the tasks that run and of those that have ended. -/
def Tasks.numbers (t : Tasks) : List Nat := t.jobs.map (·.1) ++ t.ended.map (·.1)

/-- Each task has a number of its own, which has been given out. -/
structure Tasks.Numbered (t : Tasks) : Prop where
  nodup : t.numbers.Nodup
  below : ∀ n ∈ t.numbers, n < t.next

namespace Tasks.Numbered

variable {t t' : Tasks}

/-- Numbers may be moved and dropped. -/
theorem of_fewer (h : t.Numbered) (fewer : t'.numbers.Subperm t.numbers)
    (later : t.next ≤ t'.next) :
  t'.Numbered
  := by
  constructor
  · obtain ⟨numbers, same, sublist⟩ := fewer
    apply same.nodup_iff.mp (h.nodup.sublist sublist)
  · intro n mem
    apply Nat.lt_of_lt_of_le (h.below n (fewer.subset mem)) later

/-- The next number may be given out. -/
theorem of_next (h : t.Numbered) (fewer : t'.numbers.Subperm (t.next :: t.numbers))
    (later : t.next < t'.next) :
  t'.Numbered
  := by
  constructor
  · obtain ⟨numbers, same, sublist⟩ := fewer
    apply same.nodup_iff.mp (List.Nodup.sublist sublist _)
    rw [List.nodup_cons]
    exact ⟨fun mem => Nat.lt_irrefl _ (h.below _ mem), h.nodup⟩
  · intro n mem
    rcases List.mem_cons.mp (fewer.subset mem) with rfl | mem
    · apply later
    · apply Nat.lt_trans (h.below n mem) later

/-- A task ends only once. -/
theorem result_unique (h : t.Numbered) {n : Nat} {first second : Lint.Result}
    (mem : (n, first) ∈ t.ended) (mem' : (n, second) ∈ t.ended) :
  first = second
  := by
  have nodup : (t.ended.map (·.1)).Nodup := (List.nodup_append.mp h.nodup).2.1
  apply congrArg Prod.snd (List.inj_on_of_nodup_map nodup mem mem' rfl)

end Tasks.Numbered

/-! ### What becomes of numbers -/

theorem numbers_endTask (s : Session) (task : Nat) (result : Lint.Result) :
  (s.endTask task result).tasks.numbers.Perm (task :: s.tasks.numbers)
  := by
  simp only [tasks, Tasks.numbers, endTask, List.map_append, List.map_cons, List.map_nil,
    ← List.append_assoc]
  apply List.perm_append_singleton

theorem numbers_wait (s : Session) (task : Nat) (job : Job) :
  (s.wait task job).tasks.numbers.Perm (task :: s.tasks.numbers)
  := by
  simp only [tasks, Tasks.numbers, wait, List.map_append, List.map_cons, List.map_nil,
    List.append_assoc, List.singleton_append]
  apply List.perm_middle

/-- The end of a stop task drops its number and moves those of the tasks that wait for
it. -/
theorem numbers_withoutStop (stop : Nat) (jobs : List (Nat × Job)) :
  ((withoutStop stop jobs).map (·.1) ++ released stop jobs).Subperm (jobs.map (·.1))
  := by
  induction jobs with
  | nil => apply List.Subperm.refl
  | cons first jobs ih =>
    rcases first with ⟨n, lint | ⟨other, call⟩ | stops⟩
    · apply (List.subperm_cons n).mpr ih
    · by_cases own : other = stop
      · simp only [withoutStop, released, List.filterMap_cons, own] at ih ⊢
        apply List.Subperm.cons_right n ih
      · simp only [withoutStop, released, List.filterMap_cons, own] at ih ⊢
        apply (List.subperm_cons n).mpr ih
    · by_cases own : stops = [stop]
      · simp only [withoutStop, released, List.filterMap_cons, own] at ih ⊢
        apply List.perm_middle.subperm.trans ((List.subperm_cons n).mpr ih)
      · simp only [withoutStop, released, List.filterMap_cons, own] at ih ⊢
        apply (List.subperm_cons n).mpr ih

theorem lint_of_withoutStop {stop n : Nat} {lint : Lint.Pending} {jobs : List (Nat × Job)}
    (mem : (n, .lint lint) ∈ withoutStop stop jobs) :
  (n, .lint lint) ∈ jobs
  := by
  obtain ⟨⟨n', job⟩, mem, left⟩ := List.mem_filterMap.mp mem
  rcases job with lint' | ⟨other, call⟩ | stops
  · have same : (n', Job.lint lint') = (n, Job.lint lint) := Option.some.inj left
    rw [← same]
    apply mem
  · simp at left
  · simp at left

theorem numbers_finishStop (s : Session) (stop : Nat) :
  (s.finishStop stop).tasks.numbers.Subperm s.tasks.numbers
  := by
  have moved : (s.finishStop stop).tasks.numbers =
      (withoutStop stop s.jobs).map (·.1) ++ (s.ended.map (·.1) ++ released stop s.jobs) := by
    simp [tasks, Tasks.numbers, finishStop, Function.comp_def]
  rw [moved]
  apply (List.perm_append_comm.append_left _).subperm.trans
  rw [← List.append_assoc]
  apply List.Subperm.append (numbers_withoutStop stop s.jobs) (List.Subperm.refl _)

theorem numbers_forget (s : Session) (task : Nat) :
  (s.forget task).tasks.numbers.Sublist s.tasks.numbers
  := List.Sublist.append_right (List.filter_sublist.map _) _

theorem numbers_forgetAll (s : Session) (ids : List Nat) :
  (ids.foldl forget s).tasks.numbers.Subperm s.tasks.numbers
  := by
  induction ids generalizing s with
  | nil => apply List.Subperm.refl
  | cons id ids ih => apply (ih _).trans (numbers_forget s id).subperm

theorem numbers_cancelStop (s : Session) (stop : Nat) :
  (s.cancelStop stop).tasks.numbers.Subperm s.tasks.numbers
  := (numbers_finishStop ..).trans (numbers_forgetAll ..)

theorem numbers_cancelStops (s : Session) (stops : List Nat) :
  (stops.foldl cancelStop s).tasks.numbers.Subperm s.tasks.numbers
  := by
  induction stops generalizing s with
  | nil => apply List.Subperm.refl
  | cons stop stops ih => apply (ih _).trans (numbers_cancelStop s stop)

theorem mem_jobs_of_lookup {s : Session} {task : Nat} {job : Job}
    (found : s.jobs.lookup task = some job) :
  (task, job) ∈ s.jobs
  := by
  obtain ⟨before, later, same, -⟩ := List.lookup_eq_some_iff.mp found
  rw [same]
  apply List.mem_append_right _ List.mem_cons_self

/-- A number belongs to one task. -/
theorem job_unique {s : Session} (numbered : s.tasks.Numbered) {task : Nat} {job job' : Job}
    (mem : (task, job) ∈ s.jobs) (mem' : (task, job') ∈ s.jobs) :
  job = job'
  := by
  have nodup : (s.jobs.map (·.1)).Nodup := (List.nodup_append.mp numbered.nodup).1
  apply congrArg Prod.snd (List.inj_on_of_nodup_map nodup mem mem' rfl)

theorem lookup_of_mem_jobs {s : Session} (numbered : s.tasks.Numbered) {task : Nat} {job : Job}
    (mem : (task, job) ∈ s.jobs) :
  s.jobs.lookup task = some job
  := by
  cases found : s.jobs.lookup task with
  | none =>
    have absent := List.lookup_eq_none_iff.mp found _ mem
    simp at absent
  | some job' => rw [job_unique numbered mem (mem_jobs_of_lookup found)]

/-- A lint whose reply ends it is taken from the tasks that run and has its result. -/
theorem answer_of_ended {s : Session} {task : Nat} {lint : Lint.Pending} {reply : Reply}
    {p : Package} {events : List Event} {result : Lint.Result}
    (found : s.jobs.lookup task = some (.lint lint))
    (heard : s.package.hearReply lint reply = (p, events, .ended result)) :
  s.answer? task reply = some (((s.forget task).commit (p, events)).endTask task result)
  := by
  have heard' : (s.forget task).package.hearReply lint reply = (p, events, .ended result) := heard
  simp only [answer?, found, hear, heard']

/-- A lint that has to call again waits for the next reply, if none lies ready. -/
theorem answer_of_again {s : Session} {task : Nat} {lint : Lint.Pending} {reply : Reply}
    {p : Package} {events : List Event} (found : s.jobs.lookup task = some (.lint lint))
    (heard : s.package.hearReply lint reply = (p, events, .again)) (silent : s.replies = []) :
  s.answer? task reply = some
    (({ (s.forget task).commit (p, events) with replies := [] }.emit [.call lint.call]).wait task
      (.lint lint))
  := by
  have heard' : (s.forget task).package.hearReply lint reply = (p, events, .again) := heard
  have silent' : ((s.forget task).commit (p, events)).replies = [] := silent
  simp only [answer?, found, hear, heard', silent', converse]

/-- A lint of an open document that finds the checker busy calls it again. -/
theorem answer_of_busy {s : Session} {task : Nat} {lint : Lint.Pending} {reply : Reply}
    {root : Option Path} (found : s.jobs.lookup task = some (.lint lint))
    (busy : lint.hear reply = .busy root) (isOpen : s.package.isOpen lint.document.id = true)
    (silent : s.replies = []) :
  s.answer? task reply = some
    (({ (s.forget task).commit (s.package.recordServer root, []) with replies := [] }.emit
      [.call lint.call]).wait task (.lint lint))
  := by
  apply answer_of_again found _ silent
  rw [hearReply_of_busy s.package lint busy, isOpen]
  rfl

/-- A task that is taken from those that run can be put somewhere else. -/
theorem numbers_forgotten {s : Session} (h : s.tasks.Numbered) {task : Nat} {job : Job}
    (found : s.jobs.lookup task = some job) :
  (task :: (s.forget task).tasks.numbers).Subperm s.tasks.numbers
  := by
  have runs : task ∈ s.jobs.map (·.1) := List.mem_map.mpr ⟨_, mem_jobs_of_lookup found, rfl⟩
  have gone : task ∉ (s.forget task).tasks.numbers := by
    intro mem
    rcases List.mem_append.mp mem with mem | mem
    · obtain ⟨other, kept, rfl⟩ := List.mem_map.mp mem
      have different := (List.mem_filter.mp kept).2
      simp at different
    · apply (List.nodup_append.mp h.nodup).2.2 task runs task mem rfl
  have nodup : (task :: (s.forget task).tasks.numbers).Nodup :=
    List.nodup_cons.mpr ⟨gone, h.nodup.sublist (numbers_forget s task)⟩
  apply nodup.subperm
  intro n mem
  rcases List.mem_cons.mp mem with rfl | mem
  · apply List.mem_append_left _ runs
  · apply (numbers_forget s task).subset mem

/-! ### Operations -/

/-- The tasks of a session after something has been done to it. -/
structure Tasks.Continues (t t' : Tasks) : Prop where
  numbered : t.Numbered → t'.Numbered
  next : t.next ≤ t'.next
  ended : t.ended ⊆ t'.ended
  /-- A task that waits for the checker has done so before, or is new. -/
  lints : ∀ n lint, (n, .lint lint) ∈ t'.jobs →
    (n, .lint lint) ∈ t.jobs ∨ t.next ≤ n ∧ lint.IsKeyed

namespace Tasks.Continues

variable {s s' : Session} {t t' t'' : Tasks}

theorem refl (t : Tasks) : t.Continues t where
  numbered := id
  next := Nat.le_refl _
  ended := List.Subset.refl _
  lints _ _ := Or.inl

theorem trans (first : t.Continues t') (second : t'.Continues t'') :
  t.Continues t''
  where
  numbered h := second.numbered (first.numbered h)
  next := Nat.le_trans first.next second.next
  ended := List.Subset.trans first.ended second.ended
  lints n lint mem := by
    rcases second.lints n lint mem with mem | ⟨new, keyed⟩
    · apply first.lints n lint mem
    · apply Or.inr ⟨Nat.le_trans first.next new, keyed⟩

/-- Numbers are moved and dropped. -/
theorem of_fewer (fewer : t'.numbers.Subperm t.numbers) (next : t.next ≤ t'.next)
    (ended : t.ended ⊆ t'.ended)
    (lints : ∀ n lint, (n, .lint lint) ∈ t'.jobs → (n, .lint lint) ∈ t.jobs) :
  t.Continues t'
  where
  numbered h := h.of_fewer fewer next
  next := next
  ended := ended
  lints n lint mem := Or.inl (lints n lint mem)

/-- A task that runs ends, or runs on. -/
theorem of_running {task : Nat} {job : Job} (found : s.jobs.lookup task = some job)
    (fewer : t'.numbers.Subperm (task :: (s.forget task).tasks.numbers))
    (next : s.next ≤ t'.next) (ended : s.ended ⊆ t'.ended)
    (lints : ∀ n lint, (n, .lint lint) ∈ t'.jobs →
      (n, .lint lint) ∈ s.jobs ∨ s.next ≤ n ∧ lint.IsKeyed) :
  s.tasks.Continues t'
  where
  numbered h := h.of_fewer (fewer.trans (numbers_forgotten h found)) next
  next := next
  ended := ended
  lints := lints

/-- A new task ends at once. -/
theorem endNext {result : Lint.Result} (jobs : t'.jobs = t.jobs) (next : t'.next = t.next + 1)
    (ended : t'.ended = t.ended ++ [(t.next, result)]) :
  t.Continues t'
  where
  numbered h := by
    apply h.of_next
    · simp only [Tasks.numbers, jobs, ended, List.map_append, ← List.append_assoc]
      apply (List.perm_append_singleton _ _).subperm
    · rw [next]
      apply Nat.lt_succ_self
  next := by
    rw [next]
    apply Nat.le_succ
  ended := by
    rw [ended]
    apply List.subset_append_left
  lints n lint mem := by
    rw [jobs] at mem
    apply Or.inl mem

/-- A new task runs. -/
theorem runNext {job : Job} (jobs : t'.jobs = t.jobs ++ [(t.next, job)])
    (next : t'.next = t.next + 1) (ended : t'.ended = t.ended)
    (keyed : ∀ lint, job = .lint lint → lint.IsKeyed) :
  t.Continues t'
  where
  numbered h := by
    apply h.of_next
    · simp only [Tasks.numbers, jobs, ended, List.map_append, List.append_assoc]
      apply List.perm_middle.subperm
    · rw [next]
      apply Nat.lt_succ_self
  next := by
    rw [next]
    apply Nat.le_succ
  ended := by
    rw [ended]
    apply List.Subset.refl
  lints n lint mem := by
    rw [jobs, List.mem_append, List.mem_singleton] at mem
    rcases mem with mem | same
    · apply Or.inl mem
    · obtain ⟨rfl, rfl⟩ := Prod.mk.inj same
      apply Or.inr ⟨Nat.le_refl _, keyed lint rfl⟩

theorem lint (s : Session) (document : Document) :
  s.tasks.Continues (s.lint document).tasks
  := by
  rcases s.lint_cases document with ⟨_, _, -, ended, -⟩ | ⟨lint, _, s', begun, same, -, -, heard⟩
  · rw [ended]
    exact endNext rfl rfl rfl
  · have jobs : s'.jobs = s.jobs := congrArg Tasks.jobs same
    have next : s'.next = s.next + 1 := congrArg Tasks.next same
    have ended : s'.ended = s.ended := congrArg Tasks.ended same
    rw [heard]
    cases endedBy s.package lint s.replies with
    | none =>
      apply runNext (congrArg (· ++ [(s.next, Job.lint lint)]) jobs) next ended
      rintro _ ⟨⟩
      apply (Lint.begin_calls begun).2
    | some result => apply endNext jobs next (congrArg (· ++ [(s.next, result)]) ended)

theorem finishStop (s : Session) (stop : Nat) :
  s.tasks.Continues (s.finishStop stop).tasks
  := by
  apply of_fewer (numbers_finishStop s stop) (Nat.le_refl _)
  · apply List.subset_append_left
  · intro n lint mem
    apply lint_of_withoutStop mem

theorem forget (s : Session) (task : Nat) :
  s.tasks.Continues (s.forget task).tasks
  := by
  apply of_fewer (numbers_forget s task).subperm (Nat.le_refl _) (List.Subset.refl _)
  intro n lint mem
  apply (List.mem_filter.mp mem).1

theorem runStop (configured : String) (s : Session) (task : StopTask) :
  s.tasks.Continues (Session.runStop configured s task).tasks
  := by
  rw [Session.runStop]
  simp only
  split
  · refine runNext rfl rfl rfl ?_
    simp
  · apply trans _ (finishStop ..)
    apply of_fewer
    · apply List.Subperm.refl
    · apply Nat.le_succ
    · apply List.Subset.refl
    · intro n lint mem
      apply mem

theorem runStops (configured : String) (s : Session) (tasks : List StopTask) :
  s.tasks.Continues (tasks.foldl (Session.runStop configured) s).tasks
  := by
  induction tasks generalizing s with
  | nil => apply refl
  | cons task tasks ih => apply (runStop configured s task).trans (ih _)

theorem waitPending (s : Session) :
  s.tasks.Continues s.waitPending.tasks
  := by
  rw [Session.waitPending]
  simp only
  split
  · exact endNext rfl rfl rfl
  · refine runNext rfl rfl rfl ?_
    simp

theorem act (s : Session) (action : Action) :
  s.tasks.Continues (s.act action).tasks
  := by
  cases action with
  | activate fresh => cases fresh <;> apply refl
  | deactivate stopServers => apply runStops _ (s.commit _)
  | lint document => apply lint
  | click => simp only [Session.act, click?]; split <;> apply refl
  | press index => simp only [Session.act, press?]; split <;> apply refl
  | dismiss index => simp only [Session.act, dismiss?]; split <;> apply refl
  | waitPending => apply waitPending
  | _ => apply refl

theorem answer {task : Nat} {reply : Reply} (answered : s.answer? task reply = some s') :
  s.tasks.Continues s'.tasks
  := by
  rcases answer_cases answered with ⟨lint, s'', found, same, -, -, rfl⟩ | ⟨_, _, -, rfl, -⟩
  · have next : s''.next = s.next := congrArg Tasks.next same
    have ended : s''.ended = s.ended := congrArg Tasks.ended same
    have kept (n : Nat) (other : Lint.Pending) (mem : (n, .lint other) ∈ s''.jobs) :
        (n, .lint other) ∈ s.jobs := by
      have jobs : s''.jobs = (s.forget task).jobs := congrArg Tasks.jobs same
      rw [jobs] at mem
      apply (List.mem_filter.mp mem).1
    cases endedBy s.package lint (reply :: s.replies) with
    | none =>
      apply of_running found (same ▸ (numbers_wait s'' task _).subperm) (Nat.le_of_eq next.symm)
      · change s.ended ⊆ s''.ended
        rw [ended]
        apply List.Subset.refl
      · intro n other mem
        apply Or.inl
        rcases List.mem_append.mp mem with mem | mem
        · apply kept n other mem
        · rw [List.mem_singleton.mp mem]
          apply mem_jobs_of_lookup found
    | some result =>
      apply of_running found (same ▸ (numbers_endTask s'' task result).subperm)
        (Nat.le_of_eq next.symm)
      · change s.ended ⊆ s''.ended ++ _
        rw [ended]
        apply List.subset_append_left
      · intro n other mem
        apply Or.inl (kept n other mem)
  · apply (forget s task).trans (finishStop ..)

theorem forgetAll (s : Session) (ids : List Nat) :
  s.tasks.Continues (ids.foldl Session.forget s).tasks
  := by
  induction ids generalizing s with
  | nil => apply refl
  | cons id ids ih => apply (forget s id).trans (ih _)

theorem cancelStops (s : Session) (stops : List Nat) :
  s.tasks.Continues (stops.foldl cancelStop s).tasks
  := by
  induction stops generalizing s with
  | nil => apply refl
  | cons stop stops ih =>
    apply trans _ (ih _)
    apply (forgetAll ..).trans (finishStop ..)

theorem cancel {task : Nat} (cancelled : s.cancel? task = some s') :
  s.tasks.Continues s'.tasks
  := by
  rcases cancel_cases cancelled with ⟨lint, found, rfl, -⟩ | ⟨stops, found, rfl, -⟩
  · apply of_running found (numbers_endTask ..).subperm (Nat.le_refl _)
    · apply List.subset_append_left
    · intro n other mem
      apply Or.inl (List.mem_filter.mp mem).1
  · have fewer := cancelStops (s.forget task) stops
    apply of_running found
    · apply (numbers_endTask ..).subperm.trans
      apply (List.subperm_cons task).mpr (numbers_cancelStops ..)
    · apply fewer.next
    · apply List.Subset.trans fewer.ended
      apply List.subset_append_left
    · intro n other mem
      rcases fewer.lints n other mem with mem | new
      · apply Or.inl (List.mem_filter.mp mem).1
      · apply Or.inr new

theorem perform (s : Session) (operation : Operation) :
  s.tasks.Continues (s.perform operation).tasks
  := by
  cases operation with
  | host action => apply act
  | respond index reply =>
    rcases s.respond_cases index reply with ⟨same, -⟩ | ⟨task, -, answered, -⟩
    · rw [same]
      apply refl
    · apply answer answered
  | queue replies => apply refl
  | cancel task =>
    rcases s.perform_cancel_cases task with ⟨same, -⟩ | cancelled
    · rw [same]
      apply refl
    · apply cancel cancelled

theorem run (s : Session) (operations : List Operation) :
  s.tasks.Continues (s.run operations).tasks
  := by
  induction operations generalizing s with
  | nil => apply refl
  | cons operation operations ih => apply (perform s operation).trans (ih _)

end Tasks.Continues

theorem numbered_start (settings : Settings) (tree : FileTree) (timeout : Option Binary64) :
  (start settings tree timeout).tasks.Numbered
  := ⟨List.nodup_nil, by simp [tasks, Tasks.numbers, start]⟩

end Package.Session

end TypeCoverage
