import TypeCoverage.Proofs.Locator.Remembered
import TypeCoverage.Proofs.Package.Live
import TypeCoverage.Proofs.Package.Remaining

/-!
# What lints share, and what they do not

Lints that are under way side by side share a package.  They leave its `Package.frame` as it
is.  What concerns one document is the `Package.share` of the document.  While some document
is active, a share changes only when a lint of its own document hears a reply
(`share_hearReply_of_ne`), and what it becomes depends on the share and the frame alone
(`hearReply_congr`).

How far the lint of a task has come is its `Stage`: it waits for the checker, or has ended.
A lint that begins and a reply that is heard change the stage of one task and leave those of
all others as they are (`Session.Tells`).
-/

namespace TypeCoverage.Package

open Settings (Store)

/-! ### What lints leave as it is -/

/-- What of a package no lint changes. -/
structure Frame where
  store : Store Reaction
  closed : List String
  active : Option String
  attached : Bool
  pending : List Nat
  scheduled : Nat

/-- What of a package no lint changes. -/
def frame (p : Package) : Frame where
  store := p.store
  closed := p.closed
  active := p.active
  attached := p.attached
  pending := p.servers.pending
  scheduled := p.servers.scheduled

theorem keepReport_eq (p : Package) (d : String) (r : Report) :
  p.keepReport d r =
    if p.showsReportOf d then { p with cache := p.cache.set d r }.paint (Tile.reportCalls r)
    else ⟨{ p with cache := p.cache.set d r }, [], .ok ()⟩
  := rfl

theorem frame_keepReport (p : Package) (d : String) (r : Report) :
  (p.keepReport d r).package.frame = p.frame
  := by
  rw [keepReport_eq]
  split <;> rfl

theorem frame_recordServer (p : Package) (root : Option Path) :
  (p.recordServer root).frame = p.frame
  := by
  cases root with
  | none => rfl
  | some root =>
    simp only [recordServer, Servers.add]
    split <;> rfl

theorem frame_hearReply (p : Package) (lint : Lint.Pending) (reply : Reply) :
  (p.hearReply lint reply).1.frame = p.frame
  := by
  cases heard : lint.hear reply with
  | ended result => rw [hearReply, heard]
  | busy root =>
    rw [hearReply_of_busy p lint heard]
    apply frame_recordServer
  | report r =>
    rw [hearReply, heard]
    simp only
    split
    · apply frame_keepReport
    · rfl

theorem isOpen_of_frame {p q : Package} (same : q.frame = p.frame) (d : String) :
  q.isOpen d = p.isOpen d
  := by
  have closed : q.closed = p.closed := congrArg Frame.closed same
  rw [isOpen, closed]
  rfl

theorem showsReportOf_of_frame {p q : Package} (same : q.frame = p.frame) (d : String) :
  q.showsReportOf d = p.showsReportOf d
  := by
  have attached : q.attached = p.attached := congrArg Frame.attached same
  have active : q.active = p.active := congrArg Frame.active same
  rw [showsReportOf, attached, active]
  rfl

/-! ### What concerns one document -/

/-- What of a package concerns one document: its report and, if it is the active one, the
tile. -/
structure Share where
  report : Option Report
  tile : Option Tile

/-- What of a package concerns one document. -/
def share (p : Package) (d : String) : Share where
  report := p.cache.get (some d)
  tile := if p.active = some d then p.tile else none

theorem share_of_view {p q : Package} (same : q.view = p.view) (d : String) :
  q.share d = p.share d
  := by
  obtain ⟨cache, -, active, tile, -⟩ := View.mk.inj same
  rw [share, cache, active, tile]
  rfl

/-- What keeping a report of a document does to the shares. -/
theorem share_keepReport (p : Package) (d other : String) (r : Report) :
  (p.keepReport d r).package.share other =
    { report := if other = d then some r else (p.share other).report
      tile := if p.showsReportOf d then
          (p.share other).tile.map (·.applyAll (Tile.reportCalls r).calls)
        else (p.share other).tile }
  := by
  rw [keepReport_eq]
  cases p.showsReportOf d with
  | false => simp [share, Cache.get_set]
  | true =>
    by_cases active : p.active = some other <;> simp [share, paint, Cache.get_set, active]

/-- A report of another document than the active one is not shown. -/
theorem not_showsReportOf {p : Package} {a d : String} (active : p.active = some a)
    (other : a ≠ d) :
  p.showsReportOf d = false
  := by
  simp [showsReportOf, active, other]

/-- While some document is active, a report of a document is kept without a trace in the
shares of the others. -/
theorem share_keepReport_of_ne {p : Package} (active : p.active ≠ none) {d other : String}
    (apart : d ≠ other) (r : Report) :
  (p.keepReport d r).package.share other = p.share other
  := by
  obtain ⟨a, active⟩ := Option.ne_none_iff_exists'.mp active
  rw [share_keepReport, if_neg apart.symm]
  by_cases shown : a = other
  · rw [not_showsReportOf active (shown ▸ apart.symm)]
    rfl
  · have hidden : (p.share other).tile = none := by simp [share, active, shown]
    rw [hidden, Option.map_none, ite_self, ← hidden]

theorem keepReport_congr {p q : Package} (frames : q.frame = p.frame) {d : String}
    (same : q.share d = p.share d) (r : Report) :
  (q.keepReport d r).package.share d = (p.keepReport d r).package.share d ∧
    (q.keepReport d r).result = (p.keepReport d r).result
  := by
  have shows := showsReportOf_of_frame frames d
  constructor
  · rw [share_keepReport, share_keepReport, same, shows]
  · rw [keepReport_eq, keepReport_eq, shows]
    split <;> rfl

/-- What a lint of another document hears does not concern a document. -/
theorem share_hearReply_of_ne {p : Package} (active : p.active ≠ none) {lint : Lint.Pending}
    {d : String} (apart : lint.document.id ≠ d) (reply : Reply) :
  (p.hearReply lint reply).1.share d = p.share d
  := by
  cases brings : reply.report? with
  | none => apply share_of_view (view_hearReply p lint brings)
  | some r =>
    cases isOpen : p.isOpen lint.document.id with
    | false => rw [hearReply_of_closed p lint brings isOpen]
    | true =>
      rw [hearReply_of_open p lint brings isOpen]
      apply share_keepReport_of_ne active apart

/-- What becomes of a lint and of the share of its document depends on that share alone. -/
theorem hearReply_congr {p q : Package} (frames : q.frame = p.frame) {lint : Lint.Pending}
    (same : q.share lint.document.id = p.share lint.document.id) (reply : Reply) :
  (q.hearReply lint reply).1.share lint.document.id =
      (p.hearReply lint reply).1.share lint.document.id ∧
    (q.hearReply lint reply).2.2 = (p.hearReply lint reply).2.2
  := by
  have opens := isOpen_of_frame frames lint.document.id
  cases brings : reply.report? with
  | none =>
    constructor
    · rw [share_of_view (view_hearReply q lint brings), same,
        share_of_view (view_hearReply p lint brings)]
    · cases heard : lint.hear reply with
      | ended result => simp [hearReply, heard]
      | busy root =>
        rw [hearReply_of_busy q lint heard, hearReply_of_busy p lint heard, opens]
      | report r => exact absurd heard (lint.hear_ne_report brings r)
  | some r =>
    cases isOpen : p.isOpen lint.document.id with
    | false =>
      rw [hearReply_of_closed p lint brings isOpen,
        hearReply_of_closed q lint brings (opens.trans isOpen)]
      exact ⟨same, rfl⟩
    | true =>
      obtain ⟨kept, result⟩ := keepReport_congr frames same r
      rw [hearReply_of_open p lint brings isOpen,
        hearReply_of_open q lint brings (opens.trans isOpen)]
      simp only
      rw [kept, result]
      exact ⟨rfl, rfl⟩

/-! ### Stages -/

/-- How far a lint has come. -/
inductive Stage where
  | waits (lint : Lint.Pending)
  | ended (result : Lint.Result)

namespace Stage

/-- How far a lint has come when it has begun. -/
def ofBegun : Lint.Begun → Stage
  | .ended result => .ended result
  | .calls lint => .waits lint

/-- How far a lint has come when it has heard a reply, or waits for another one. -/
def ofStep (lint : Lint.Pending) : LintStep → Stage
  | .ended result => .ended result
  | .again => .waits lint

/-- How far a lint has come that has a result, or none yet. -/
def ofResult (lint : Lint.Pending) : Option Lint.Result → Stage
  | some result => .ended result
  | none => .waits lint

/-- A package and a stage after a reply.  A lint that has ended hears nothing. -/
def hear (p : Package) (reply : Reply) : Stage → Package × Stage
  | .waits lint =>
    ((p.hearReply lint reply).1, ofStep lint (p.hearReply lint reply).2.2)
  | .ended result => (p, .ended result)

/-- A lint that waits does so for a document, and calls the checker under its key. -/
def IsOf (d : String) : Stage → Prop
  | .waits lint => lint.document.id = d ∧ lint.IsKeyed
  | .ended _ => True

theorem isOf_ofBegun {settings : Settings} {timeout : Option Binary64} {tree : FileTree}
    {memo : Memo} (document : Document) :
  (ofBegun (Lint.begin settings timeout tree memo document).1).IsOf document.id
  := by
  rcases begun : Lint.begin settings timeout tree memo document with ⟨result | lint, memo'⟩
  · trivial
  · obtain ⟨own, keyed⟩ := Lint.begin_calls begun
    exact ⟨congrArg Document.id own, keyed⟩

theorem isOf_hear {d : String} {stage : Stage} (own : stage.IsOf d) (p : Package)
    (reply : Reply) :
  (stage.hear p reply).2.IsOf d
  := by
  cases stage with
  | ended result => trivial
  | waits lint =>
    rw [hear]
    cases (p.hearReply lint reply).2.2 with
    | ended result => trivial
    | again => apply own

/-- A lint that waits when it has heard a reply has waited before, and has to call again. -/
theorem waits_of_hear {p : Package} {reply : Reply} {stage : Stage} {lint : Lint.Pending}
    (waits : (stage.hear p reply).2 = .waits lint) :
  stage = .waits lint ∧ (p.hearReply lint reply).2.2 = .again
  := by
  cases stage with
  | ended result => contradiction
  | waits other =>
    rw [hear] at waits
    cases step : (p.hearReply other reply).2.2 with
    | ended result =>
      rw [step] at waits
      contradiction
    | again =>
      rw [step] at waits
      obtain rfl := Stage.waits.inj waits
      exact ⟨rfl, step⟩

theorem share_hear_of_ne {d other : String} {stage : Stage} (own : stage.IsOf d)
    (apart : d ≠ other) {p : Package} (active : p.active ≠ none) (reply : Reply) :
  (stage.hear p reply).1.share other = p.share other
  := by
  cases stage with
  | ended result => rfl
  | waits lint =>
    obtain ⟨rfl, -⟩ := own
    apply share_hearReply_of_ne active apart

theorem hear_congr {d : String} {stage : Stage} (own : stage.IsOf d) {p q : Package}
    (frames : q.frame = p.frame) (same : q.share d = p.share d) (reply : Reply) :
  (stage.hear q reply).1.share d = (stage.hear p reply).1.share d ∧
    (stage.hear q reply).2 = (stage.hear p reply).2
  := by
  cases stage with
  | ended result => exact ⟨same, rfl⟩
  | waits lint =>
    obtain ⟨rfl, -⟩ := own
    obtain ⟨share, step⟩ := hearReply_congr frames same reply
    exact ⟨share, congrArg (ofStep lint) step⟩

theorem frame_hear (stage : Stage) (p : Package) (reply : Reply) :
  (stage.hear p reply).1.frame = p.frame
  := by
  cases stage with
  | ended result => rfl
  | waits lint => apply frame_hearReply

/-- A lint that waits hears that the checker is starting a server for a project. -/
def Records (reply : Reply) (root : Path) : Stage → Prop
  | .waits lint => lint.hear reply = .busy (some root)
  | .ended _ => False

theorem mem_roots_hear (stage : Stage) (p : Package) (reply : Reply) (root : Path) :
  root ∈ (stage.hear p reply).1.servers.roots ↔ stage.Records reply root ∨ root ∈ p.servers.roots
  := by
  cases stage with
  | ended result => simp [hear, Records]
  | waits lint =>
    rw [hear, servers_hearReply, Records]
    split
    · next found =>
      rw [found, Servers.mem_roots_add]
      simp [eq_comm]
    · next other =>
      have silent : lint.hear reply ≠ .busy (some root) := other root
      simp [silent]

end Stage

namespace Session

/-- How far the lint of a task has come. -/
def Tasks.stage? (t : Tasks) (task : Nat) : Option Stage :=
  match t.jobs.lookup task with
  | some (.lint lint) => some (.waits lint)
  | _ => (t.ended.lookup task).map .ended

namespace Tasks

variable {t : Tasks}

theorem not_ended_of_runs (numbered : t.Numbered) {task : Nat} (runs : task ∈ t.jobs.map (·.1)) :
  t.ended.lookup task = none
  := by
  rw [List.lookup_eq_none_iff]
  intro entry mem
  have differs := (List.nodup_append.mp numbered.nodup).2.2 task runs entry.1
    (List.mem_map_of_mem mem)
  simpa using differs

theorem not_runs_of_ended (numbered : t.Numbered) {task : Nat} {result : Lint.Result}
    (ended : t.ended.lookup task = some result) :
  t.jobs.lookup task = none
  := by
  rw [List.lookup_eq_none_iff]
  intro entry mem
  by_contra own
  obtain rfl : task = entry.1 := by simpa using own
  have absent := not_ended_of_runs numbered (List.mem_map_of_mem mem)
  rw [ended] at absent
  contradiction

theorem lookup_of_waits {task : Nat} {lint : Lint.Pending}
    (found : t.stage? task = some (.waits lint)) :
  t.jobs.lookup task = some (.lint lint)
  := by
  rw [stage?] at found
  split at found
  · next runs =>
    obtain ⟨⟩ := found
    apply runs
  · obtain ⟨_, -, ⟨⟩⟩ := Option.map_eq_some_iff.mp found

theorem lookup_of_ended {task : Nat} {result : Lint.Result}
    (found : t.stage? task = some (.ended result)) :
  t.ended.lookup task = some result
  := by
  rw [stage?] at found
  split at found
  · obtain ⟨⟩ := found
  · obtain ⟨_, ended, ⟨⟩⟩ := Option.map_eq_some_iff.mp found
    apply ended

/-- A task with a stage has a number that has been given out. -/
theorem lt_of_stage (numbered : t.Numbered) {task : Nat} {stage : Stage}
    (found : t.stage? task = some stage) :
  task < t.next
  := by
  apply numbered.below
  cases stage with
  | waits lint =>
    obtain ⟨before, after, same, -⟩ := List.lookup_eq_some_iff.mp (lookup_of_waits found)
    simp [numbers, same]
  | ended result =>
    obtain ⟨before, after, same, -⟩ := List.lookup_eq_some_iff.mp (lookup_of_ended found)
    simp [numbers, same]

/-- The number of the next task belongs to none that has begun. -/
theorem next_new (numbered : t.Numbered) :
  t.jobs.lookup t.next = none ∧ t.ended.lookup t.next = none
  := by
  have absent : t.next ∉ t.numbers := fun mem => Nat.lt_irrefl _ (numbered.below _ mem)
  rw [numbers, List.mem_append, not_or] at absent
  constructor
  · rw [List.lookup_eq_none_iff]
    rintro ⟨n, job⟩ mem
    by_contra own
    obtain rfl : t.next = n := by simpa using own
    apply absent.1 (List.mem_map_of_mem mem)
  · rw [List.lookup_eq_none_iff]
    rintro ⟨n, result⟩ mem
    by_contra own
    obtain rfl : t.next = n := by simpa using own
    apply absent.2 (List.mem_map_of_mem mem)

end Tasks

/-- A pair at the end of a list is found only under its own key. -/
theorem lookup_concat_of_ne {β : Type} {key other : Nat} (apart : other ≠ key)
    (entries : List (Nat × β)) (value : β) :
  (entries ++ [(key, value)]).lookup other = entries.lookup other
  := by
  have differs : (other == key) = false := beq_false_of_ne apart
  rw [List.lookup_append, List.lookup_cons, differs]
  simp

theorem stage_endTask (s : Session) (task : Nat) (result : Lint.Result)
    (idle : s.jobs.lookup task = none) (new : s.ended.lookup task = none) :
  (s.endTask task result).tasks.stage? task = some (.ended result)
  := by
  simp [Tasks.stage?, tasks, endTask, idle, List.lookup_append, new]

theorem stage_endTask_of_ne (s : Session) {task other : Nat} (apart : other ≠ task)
    (result : Lint.Result) :
  (s.endTask task result).tasks.stage? other = s.tasks.stage? other
  := by
  simp only [Tasks.stage?, tasks, endTask, lookup_concat_of_ne apart]

theorem stage_wait (s : Session) (task : Nat) (lint : Lint.Pending)
    (idle : s.jobs.lookup task = none) :
  (s.wait task (.lint lint)).tasks.stage? task = some (.waits lint)
  := by
  simp [Tasks.stage?, tasks, wait, List.lookup_append, idle]

theorem stage_wait_of_ne (s : Session) {task other : Nat} (apart : other ≠ task) (job : Job) :
  (s.wait task job).tasks.stage? other = s.tasks.stage? other
  := by
  simp only [Tasks.stage?, tasks, wait, lookup_concat_of_ne apart]

theorem stage_conclude (s : Session) (task : Nat) (lint : Lint.Pending)
    (result : Option Lint.Result) (idle : s.jobs.lookup task = none)
    (new : s.ended.lookup task = none) :
  (s.conclude task lint result).tasks.stage? task = some (.ofResult lint result)
  := by
  cases result with
  | none => apply stage_wait s task lint idle
  | some result => apply stage_endTask s task result idle new

theorem stage_conclude_of_ne (s : Session) {task other : Nat} (apart : other ≠ task)
    (lint : Lint.Pending) (result : Option Lint.Result) :
  (s.conclude task lint result).tasks.stage? other = s.tasks.stage? other
  := by
  cases result with
  | none => apply stage_wait_of_ne s apart
  | some result => apply stage_endTask_of_ne s apart

theorem lookup_forget (s : Session) (task other : Nat) :
  (s.forget task).jobs.lookup other = if other = task then none else s.jobs.lookup other
  := Ordered.lookup_drop ..

theorem stage_forget_of_ne (s : Session) {task other : Nat} (apart : other ≠ task) :
  (s.forget task).tasks.stage? other = s.tasks.stage? other
  := by
  simp only [Tasks.stage?, tasks, lookup_forget, if_neg apart]
  rfl

/-- Of a session, only the package and the stage of one task have changed. -/
structure Tells (s s' : Session) (task : Nat) (after : Package × Stage) : Prop where
  package : s'.package = after.1
  stage : s'.tasks.stage? task = some after.2
  others : ∀ other, other ≠ task → s'.tasks.stage? other = s.tasks.stage? other

/-- A lint that begins comes as far as that, and the package stays as it is. -/
theorem tells_lint {s : Session} (numbered : s.tasks.Numbered) (silent : s.replies = [])
    (document : Document) :
  Tells s (s.lint document) s.next (s.package,
    .ofBegun (Lint.begin s.package.settings s.timeout s.tree s.memo document).1)
  := by
  obtain ⟨idle, new⟩ := Tasks.next_new numbered
  rcases begun : Lint.begin s.package.settings s.timeout s.tree s.memo document with
    ⟨result | lint, memo⟩
  · rw [(lint_ended begun).1]
    refine ⟨rfl, ?_, ?_⟩
    · apply stage_endTask _ _ _ idle new
    · intro other apart
      apply stage_endTask_of_ne _ apart
  · rw [(lint_calls begun).1, silent]
    refine ⟨rfl, ?_, ?_⟩
    · apply stage_wait _ _ _ idle
    · intro other apart
      apply stage_wait_of_ne _ apart

theorem ofResult_endedBy (p : Package) (lint : Lint.Pending) (reply : Reply) :
  Stage.ofResult lint (endedBy p lint [reply]) = .ofStep lint (p.hearReply lint reply).2.2
  := by
  rw [endedBy]
  rcases p.hearReply lint reply with ⟨q, events, result | _⟩ <;> rfl

/-- A lint that is answered hears the reply, if it still waits. -/
theorem tells_answer {s : Session} (numbered : s.tasks.Numbered) (silent : s.replies = [])
    {task : Nat} {stage : Stage} (found : s.tasks.stage? task = some stage) (reply : Reply) :
  Tells s (s.answer task reply) task (stage.hear s.package reply)
  := by
  cases stage with
  | ended result =>
    have idle : s.jobs.lookup task = none :=
      Tasks.not_runs_of_ended numbered (Tasks.lookup_of_ended found)
    have ignored : s.answer task reply = s := by simp [answer, answer?, idle]
    rw [ignored]
    exact ⟨rfl, found, fun _ _ => rfl⟩
  | waits lint =>
    have runs : s.jobs.lookup task = some (.lint lint) := Tasks.lookup_of_waits found
    have new : s.ended.lookup task = none :=
      Tasks.not_ended_of_runs numbered (List.mem_map.mpr ⟨_, mem_jobs_of_lookup runs, rfl⟩)
    have answered : s.answer? task reply = some (s.answer task reply) := by
      simp [answer, answer?, runs]
    rcases answer_cases answered with ⟨other, s', runs', same, -, package, concluded⟩ | ⟨_, _, runs', -⟩
    · obtain rfl : lint = other := by simpa [runs] using runs'
      rw [silent] at concluded
      rw [concluded]
      refine ⟨?_, ?_, ?_⟩
      · rw [package_conclude, package, heardInReply, runs, silent]
        simp only [Live.heardBy_singleton]
        rfl
      · rw [stage_conclude, ofResult_endedBy]
        · rfl
        · rw [show s'.jobs = (s.forget task).jobs from congrArg Tasks.jobs same, lookup_forget,
            if_pos rfl]
        · rw [show s'.ended = s.ended from congrArg Tasks.ended same]
          apply new
      · intro other apart
        rw [stage_conclude_of_ne _ apart, same, stage_forget_of_ne _ apart]
    · simp [runs] at runs'

end Session

end TypeCoverage.Package
