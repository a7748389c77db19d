import TypeCoverage.Proofs.Package.Coherence
import TypeCoverage.Proofs.Package.Provenance
import TypeCoverage.Proofs.Package.Tasks
import TypeCoverage.Proofs.Servers.Stops

/-!
# Servers that stay recorded

A lint records the server of a project when it hears that a busy checker is starting one.
When the host is detached and the servers are to be stopped, the record is emptied and a
stop is called for each of them.  So a server stays recorded exactly if a lint has recorded
it since this was done last (`Session.remains`).

A lint that still waits for the checker then is neither stopped nor waited for.  If it goes
on to record a server, nobody stops that server (`Session.recorded_after_deactivate`).
-/

namespace TypeCoverage.Package

/-! ### What concerns servers -/

theorem servers_react (p : Package) (focus : Option Document) (reaction : Reaction) :
  (p.react focus reaction).1.servers = p.servers
  := by
  cases reaction with
  | priorityChanged =>
    rw [react, hearPriority]
    simp only
    split <;> rfl
  | showUncoveredChanged => rfl

theorem servers_reactAll (p : Package) (focus : Option Document) (reactions : List Reaction) :
  (p.reactAll focus reactions).1.servers = p.servers
  := by
  induction reactions generalizing p with
  | nil => rfl
  | cons reaction reactions ih =>
    rw [reactAll]
    simp only
    rw [ih, servers_react]

theorem servers_assign (p : Package) (focus : Option Document) (f : Field) (v : f.Carrier) :
  (p.assign focus f v).1.servers = p.servers
  := by
  rw [assign]
  apply servers_reactAll

theorem servers_assignAll (p : Package) (focus : Option Document) (settings : Settings)
    (fields : List Field) :
  (p.assignAll focus settings fields).1.servers = p.servers
  := by
  induction fields generalizing p with
  | nil => rfl
  | cons f fs ih =>
    rw [assignAll]
    simp only
    rw [ih, servers_assign]

theorem servers_activate (p : Package) (focus : Option Document) :
  (p.activate focus).1.servers = p.servers
  := by
  rw [activate]
  simp only [subscribe]
  rw [servers_react, servers_react]

theorem servers_refresh (p : Package) :
  p.refresh.package.servers = p.servers
  := by
  rw [refresh]
  split <;> rfl

theorem servers_activeChanged (p : Package) (document : Option String) :
  (p.activeChanged document).package.servers = p.servers
  := servers_refresh _

theorem servers_closedDocument (p : Package) (d : String) :
  (p.closedDocument d).package.servers = p.servers
  := by
  rw [closedDocument]
  simp only
  split
  · rw [servers_activeChanged]
  · rfl

theorem servers_keepReport (p : Package) (d : String) (r : Report) :
  (p.keepReport d r).package.servers = p.servers
  := by
  rw [keepReport, apply_ite Effect.package, apply_ite servers]
  apply ite_self

theorem servers_detach (p : Package) :
  p.unsubscribe.detach.1.servers = p.servers
  := by
  rw [detach]
  split <;> rfl

theorem servers_deactivate (p : Package) (stopServers : Bool) :
  (p.deactivate stopServers).1.servers = if stopServers then p.servers.stopAll.1 else p.servers
  := by
  rw [deactivate]
  cases stopServers <;> simp [servers_detach]

/-- When the servers are to be stopped, there is a stop task for each that is recorded. -/
theorem map_root_deactivate (p : Package) :
  (p.deactivate true).2.2.map (·.root) = p.servers.sorted
  := by
  rw [← servers_detach p]
  apply Servers.map_root_stopAll

/-- A reply makes a lint record a server, or changes no record. -/
theorem servers_hearReply (p : Package) (lint : Lint.Pending) (reply : Reply) :
  (p.hearReply lint reply).1.servers =
    match lint.hear reply with
    | .busy (some root) => p.servers.add root
    | _ => p.servers
  := by
  rw [hearReply]
  cases lint.hear reply with
  | ended result => rfl
  | busy root => cases root <;> rfl
  | report r =>
    cases p.isOpen lint.document.id with
    | false => rfl
    | true => apply servers_keepReport

/-- A lint hears that the checker is starting a server for a project. -/
def Happening.Records (h : Happening) (root : Path) : Prop :=
  ∃ task lint reply, h = .heard task lint reply ∧ lint.hear reply = .busy (some root)

theorem Happening.records_heard (task : Nat) (lint : Lint.Pending) (reply : Reply) (root : Path) :
  (Happening.heard task lint reply).Records root ↔ lint.hear reply = .busy (some root)
  := by
  constructor
  · rintro ⟨task', lint', reply', same, busy⟩
    obtain ⟨-, rfl, rfl⟩ := Happening.heard.inj same
    apply busy
  · intro busy
    exact ⟨task, lint, reply, rfl, busy⟩

/-- The happenings that concern the record of servers. -/
def Happening.IsOfServers : Happening → Prop
  | .deactivated _ | .heard .. => True
  | _ => False

theorem roots_after (p : Package) {h : Happening} (other : ¬ h.IsOfServers) :
  (p.after h).servers.roots = p.servers.roots
  := by
  cases h with
  | activated focus => rw [after, servers_activate]
  | tileTaken surface => rw [after, consumeStatusBar, servers_refresh]
  | activeChanged document => exact congrArg Servers.roots (servers_activeChanged p document)
  | closed d => rw [after, servers_closedDocument]
  | set focus name value =>
    rw [after, set]
    split
    · rfl
    · rw [servers_assign]
  | replaced focus values =>
    rw [after, replace]
    split
    · rfl
    · rw [servers_assignAll]
  | clicked focus => rw [after, click, servers_assign]
  | deactivated stopServers => exact absurd trivial other
  | heard task lint reply => exact absurd trivial other
  | _ => rfl

/-- The servers recorded after a happening. -/
theorem mem_roots_after (p : Package) (h : Happening) (root : Path) :
  root ∈ (p.after h).servers.roots ↔
    h.Records root ∨ h ≠ .deactivated true ∧ root ∈ p.servers.roots
  := by
  by_cases concerns : h.IsOfServers
  · cases h with
    | deactivated stopServers =>
      rw [after, servers_deactivate]
      cases stopServers <;> simp [Happening.Records]
    | heard task lint reply =>
      rw [after, servers_hearReply, Happening.records_heard]
      cases lint.hear reply with
      | busy found =>
        cases found with
        | none => simp
        | some found => simp [Servers.mem_roots_add, eq_comm]
      | _ => simp
    | _ => contradiction
  · have silent : ¬ h.Records root := by
      rintro ⟨_, _, _, rfl, -⟩
      apply concerns trivial
    have running : h ≠ .deactivated true := by
      rintro rfl
      apply concerns trivial
    rw [roots_after p concerns]
    simp [silent, running]

/-- A server has been recorded, and not all servers have been stopped since. -/
def StaysRecorded (past : List Happening) (root : Path) : Prop :=
  ∃ before h later, past = before ++ h :: later ∧ h.Records root ∧ .deactivated true ∉ later

theorem staysRecorded_concat (past : List Happening) (h : Happening) (root : Path) :
  StaysRecorded (past ++ [h]) root ↔
    h.Records root ∨ h ≠ .deactivated true ∧ StaysRecorded past root
  := by
  constructor
  · rintro ⟨before, first, later, same, records, running⟩
    rcases concat_eq_cut_iff.mp same with ⟨-, rfl, -⟩ | ⟨rest, rfl, cut⟩
    · apply Or.inl records
    · rw [List.mem_append, not_or, List.mem_singleton] at running
      exact Or.inr ⟨Ne.symm running.2, before, first, rest, cut, records, running.1⟩
  · rintro (records | ⟨running, before, first, later, rfl, records, quiet⟩)
    · exact ⟨past, h, [], rfl, records, List.not_mem_nil⟩
    · refine ⟨before, first, later ++ [h], by simp, records, ?_⟩
      rw [List.mem_append, not_or, List.mem_singleton]
      exact ⟨quiet, Ne.symm running⟩

/-- The servers recorded after some happenings can be read off them. -/
theorem mem_roots_afterAll {p : Package} (empty : p.servers.roots = []) (past : List Happening)
    (root : Path) :
  root ∈ (p.afterAll past).servers.roots ↔ StaysRecorded past root
  := by
  induction past using List.reverseRecOn with
  | nil =>
    change root ∈ p.servers.roots ↔ _
    rw [empty]
    simp [StaysRecorded]
  | append_singleton past h ih =>
    rw [Session.afterAll_append, staysRecorded_concat, ← ih]
    apply mem_roots_after

namespace Session

/-! ### Lints that are left -/

/-- No lint waits that did not wait before. -/
def Tasks.KeepsLints (t t' : Tasks) : Prop :=
  ∀ n lint, (n, .lint lint) ∈ t'.jobs → (n, .lint lint) ∈ t.jobs

theorem keepsLints_forget (s : Session) (task : Nat) :
  s.tasks.KeepsLints (s.forget task).tasks
  := fun _ _ mem => (List.mem_filter.mp mem).1

theorem keepsLints_runStops (configured : String) (s : Session) (stops : List StopTask) :
  s.tasks.KeepsLints (stops.foldl (runStop configured) s).tasks
  := by
  induction stops generalizing s with
  | nil => exact fun _ _ => id
  | cons stop stops ih =>
    intro n lint mem
    have mem := ih _ n lint mem
    rw [runStop] at mem
    simp only at mem
    split at mem
    · simpa [tasks, wait, emit] using mem
    · apply lint_of_withoutStop mem

theorem keepsLints_cancelStops (s : Session) (stops : List Nat) :
  s.tasks.KeepsLints (stops.foldl cancelStop s).tasks
  := by
  have forgets (s : Session) (ids : List Nat) :
      s.tasks.KeepsLints (ids.foldl forget s).tasks := by
    induction ids generalizing s with
    | nil => exact fun _ _ => id
    | cons id ids ih => exact fun n lint mem => keepsLints_forget s id n lint (ih _ n lint mem)
  induction stops generalizing s with
  | nil => exact fun _ _ => id
  | cons stop stops ih =>
    intro n lint mem
    apply forgets s _ n lint
    apply lint_of_withoutStop (ih _ n lint mem)

theorem keepsLints_answer {s s' : Session} {task : Nat} {reply : Reply}
    (answered : s.answer? task reply = some s') :
  s.tasks.KeepsLints s'.tasks
  := by
  intro n other mem
  rcases answer_cases answered with ⟨lint, s'', found, same, -, -, rfl⟩ | ⟨_, _, -, rfl, -⟩
  · have jobs : s''.jobs = (s.forget task).jobs := congrArg Tasks.jobs same
    have old (mem : (n, .lint other) ∈ s''.jobs) : (n, .lint other) ∈ s.jobs := by
      rw [jobs] at mem
      apply keepsLints_forget s task n other mem
    cases concluded : endedBy s.package lint (reply :: s.replies) with
    | none =>
      rw [concluded] at mem
      rcases List.mem_append.mp mem with mem | mem
      · apply old mem
      · rw [List.mem_singleton.mp mem]
        apply mem_jobs_of_lookup found
    | some result =>
      rw [concluded] at mem
      apply old mem
  · apply keepsLints_forget s task n other (lint_of_withoutStop mem)

theorem keepsLints_cancel {s s' : Session} {task : Nat} (cancelled : s.cancel? task = some s') :
  s.tasks.KeepsLints s'.tasks
  := by
  intro n other mem
  rcases cancel_cases cancelled with ⟨_, -, rfl, -⟩ | ⟨stops, -, rfl, -⟩
  · apply keepsLints_forget s task n other mem
  · apply keepsLints_forget s task n other
    apply keepsLints_cancelStops _ stops n other mem

/-- A lint comes to wait for the checker only when it begins. -/
theorem keepsLints_perform {s : Session} {operation : Operation}
    (other : ∀ document, operation ≠ .host (.lint document)) :
  s.tasks.KeepsLints (s.perform operation).tasks
  := by
  cases operation with
  | host action =>
    cases action with
    | activate fresh => cases fresh <;> exact fun _ _ => id
    | deactivate stopServers => apply keepsLints_runStops _ (s.commit _)
    | lint document => exact absurd rfl (other document)
    | click => simp only [perform, act, click?]; split <;> exact fun _ _ => id
    | press index => simp only [perform, act, press?]; split <;> exact fun _ _ => id
    | dismiss index => simp only [perform, act, dismiss?]; split <;> exact fun _ _ => id
    | waitPending =>
      simp only [perform, act, waitPending]
      split
      · exact fun _ _ => id
      · intro n lint mem
        simpa [tasks] using mem
    | _ => exact fun _ _ => id
  | respond index reply =>
    rcases s.respond_cases index reply with ⟨same, -⟩ | ⟨task, -, answered, -⟩
    · rw [same]
      exact fun _ _ => id
    · apply keepsLints_answer answered
  | queue replies => exact fun _ _ => id
  | cancel task =>
    rcases s.perform_cancel_cases task with ⟨same, -⟩ | cancelled
    · rw [same]
      exact fun _ _ => id
    · apply keepsLints_cancel cancelled

/-- If no lint waits and none begins, no lint hears anything. -/
theorem not_heard_of_no_lint {s : Session} {operations : List Operation}
    (idle : ∀ n lint, (n, .lint lint) ∉ s.jobs)
    (other : ∀ document, .host (.lint document) ∉ operations) (task : Nat) (lint : Lint.Pending)
    (reply : Reply) :
  .heard task lint reply ∉ s.history operations
  := by
  induction operations generalizing s with
  | nil => simp [history]
  | cons operation operations ih =>
    have first : ∀ document, operation ≠ .host (.lint document) := by
      rintro document rfl
      apply other document List.mem_cons_self
    rw [history, List.mem_append, not_or]
    constructor
    · intro heard
      rcases heard_cases heard with ⟨document, _, begins, -⟩ | ⟨_, _, -, -, found⟩
      · apply first document begins
      · apply idle task lint (mem_jobs_of_lookup found)
    · apply ih
      · intro n lint mem
        apply idle n lint (keepsLints_perform first n lint mem)
      · intro document mem
        apply other document (List.mem_cons_of_mem _ mem)

/-! ### What is stopped, and what remains -/

/-- Each stop task that is run calls its checker. -/
theorem calls_runStops (configured : String) (s : Session) (stops : List StopTask) :
  ∃ seen, (stops.foldl (runStop configured) s).events = s.events ++ seen ∧
    ∀ stop ∈ stops, ∃ executable call, .call call ∈ seen ∧
      call.IsStop executable stop.root (some (.ofInt 60))
  := by
  induction stops generalizing s with
  | nil => exact ⟨[], by simp, by simp⟩
  | cons stop stops ih =>
    obtain ⟨executable, calls⟩ : ∃ executable, (runStop configured s stop).events =
        s.events ++ [.call (Servers.stopCall executable stop.root (some defaultTimeout))] := by
      use (Locator.resolveExecutable s.tree s.memo stop.root.text configured).1
      rw [runStop]
      simp only
      split <;> rfl
    obtain ⟨seen, same, called⟩ := ih (runStop configured s stop)
    refine ⟨.call (Servers.stopCall executable stop.root (some defaultTimeout)) :: seen, ?_, ?_⟩
    · rw [List.foldl_cons, same, calls, List.append_assoc]
      rfl
    · intro other mem
      rcases List.mem_cons.mp mem with rfl | mem
      · exact ⟨executable, _, List.mem_cons_self, Servers.isStop_stopCall ..⟩
      · obtain ⟨executable, call, mem, stops⟩ := called other mem
        exact ⟨executable, call, List.mem_cons_of_mem _ mem, stops⟩

/-- When the servers are to be stopped, a stop is called for each that is recorded. -/
theorem stops_deactivate (s : Session) :
  ∃ seen, (s.deactivate true).events = s.events ++ seen ∧
    ∀ root ∈ s.package.servers.roots, ∃ executable call, .call call ∈ seen ∧
      call.IsStop executable root (some (.ofInt 60))
  := by
  obtain ⟨seen, same, called⟩ := calls_runStops s.package.settings.executablePath
    (s.commit ((s.package.deactivate true).1, (s.package.deactivate true).2.1))
    (s.package.deactivate true).2.2
  refine ⟨(s.package.deactivate true).2.1 ++ seen, ?_, ?_⟩
  · rw [← List.append_assoc]
    apply same
  · intro root mem
    have mem : root ∈ (s.package.deactivate true).2.2.map (·.root) := by
      rw [map_root_deactivate, Servers.sorted, List.mem_mergeSort]
      apply mem
    obtain ⟨stop, scheduled, rfl⟩ := List.mem_map.mp mem
    obtain ⟨executable, call, mem, stops⟩ := called stop scheduled
    exact ⟨executable, call, List.mem_append_right _ mem, stops⟩

/-- When the servers are to be stopped, none stays recorded. -/
theorem roots_deactivate (s : Session) :
  (s.deactivate true).package.servers.roots = []
  := by
  have emptied : (s.package.after (.deactivated true)).servers.roots = [] := by
    rw [after, servers_deactivate]
    rfl
  rw [List.eq_nil_iff_forall_not_mem]
  intro root mem
  rw [package_deactivate, happeningsOf, afterAll, List.foldl_cons] at mem
  obtain ⟨_, _, _, cut, ⟨_, _, _, rfl, -⟩, -⟩ := (mem_roots_afterAll emptied _ root).mp mem
  have finished := cut ▸ List.mem_append_right _ List.mem_cons_self
  simp at finished

/-- The servers that are recorded after some operations, and those that were stopped. -/
structure Remains (s : Session) (operations : List Operation) : Prop where
  /-- A server is recorded exactly if a lint has recorded it since all servers were to be
  stopped last, whatever has been done besides. -/
  recorded : ∀ root, root ∈ (s.run operations).package.servers.roots ↔
    StaysRecorded (s.history operations) root
  /-- Whenever the servers are to be stopped, a stop is called for each that is recorded. -/
  stopped : ∀ before later, operations = before ++ .host (.deactivate true) :: later →
    ∃ seen, ((s.run before).perform (.host (.deactivate true))).events =
        (s.run before).events ++ seen ∧
      ∀ root ∈ (s.run before).package.servers.roots, ∃ executable call, .call call ∈ seen ∧
        call.IsStop executable root (some (.ofInt 60))
  /-- If no lint waits for the checker when the servers are to be stopped, none is recorded
  until a lint begins. -/
  vacant : ∀ before later, operations = before ++ .host (.deactivate true) :: later →
    (∀ n lint, (n, .lint lint) ∉ (s.run before).jobs) →
    (∀ document, .host (.lint document) ∉ later) →
      (s.run operations).package.servers.roots = []

theorem mem_roots_run {s : Session} (empty : s.package.servers.roots = [])
    (operations : List Operation) (root : Path) :
  root ∈ (s.run operations).package.servers.roots ↔ StaysRecorded (s.history operations) root
  := by
  rw [package_run]
  apply mem_roots_afterAll empty

/-- In every run, whatever lints and detachings come in whatever order, a server stays
recorded only if it has been recorded since the servers were to be stopped last. -/
theorem remains (settings : Settings) (tree : FileTree) (timeout : Option Binary64)
    (operations : List Operation) :
  Remains (start settings tree timeout) operations
  where
  recorded := mem_roots_run rfl operations
  stopped _ _ _ := stops_deactivate _
  vacant := by
    rintro before later rfl idle other
    generalize stopped : ((start settings tree timeout).run before).perform
      (.host (.deactivate true)) = s
    have run : (start settings tree timeout).run (before ++ .host (.deactivate true) :: later) =
        s.run later := by
      rw [← stopped]
      exact List.foldl_append
    have empty : s.package.servers.roots = [] := by
      rw [← stopped]
      apply roots_deactivate
    rw [run, List.eq_nil_iff_forall_not_mem]
    intro root mem
    rw [mem_roots_run empty] at mem
    obtain ⟨_, h, _, cut, ⟨task, lint, reply, rfl, -⟩, -⟩ := mem
    apply not_heard_of_no_lint (s := s) _ other task lint reply
    · rw [cut]
      simp
    · intro n lint mem
      rw [← stopped] at mem
      apply idle n lint
      apply keepsLints_perform _ n lint mem
      simp

/-! The host is detached while a lint waits for the checker. -/

/-- Where no server is recorded, there is nothing to stop. -/
theorem deactivate_of_no_server {s : Session} (empty : s.package.servers.roots = []) :
  s.deactivate true = s.deactivate false
  := by
  have nothing : s.package.unsubscribe.detach.1.servers.stopAll =
      (s.package.unsubscribe.detach.1.servers, []) := by
    rw [servers_detach]
    cases servers : s.package.servers
    simp_all [Servers.stopAll, Servers.sorted]
  rw [deactivate, deactivate, Package.deactivate, Package.deactivate]
  simp [nothing]

/-- A tree with a project at its root. -/
def projectSample : FileTree := ⟨[([".flowconfig"], .file [] false)], []⟩

theorem walkUpward_projectSample :
  Locator.walkUpward projectSample "/" Locator.projectMarker = .ok (some (.ofText "/.flowconfig"))
  := by
  have places : (Path.ofText "/").ancestors.map (·.join (Path.ofText Locator.projectMarker)) =
      [Path.ofText "/.flowconfig"] := by decide +kernel
  have parts : FileTree.startOf projectSample (Path.ofText "/.flowconfig") =
      ([], [".flowconfig"]) := by decide +kernel
  have entry : projectSample.entry? [".flowconfig"] = some (.file [] false) := by decide +kernel
  have found : FileTree.walkFrom projectSample FileTree.linkLimit [] [".flowconfig"] =
      .found [".flowconfig"] (.file [] false) := by
    rw [FileTree.walkFrom, if_neg (by decide +kernel), if_neg (by decide +kernel),
      if_neg (by decide +kernel)]
    simp only [List.nil_append, entry, List.isEmpty_nil, if_true]
  rw [Locator.walkUpward, places, FileTree.firstWhere, FileTree.exists?, FileTree.probe,
    FileTree.walk, if_neg (by decide +kernel), if_neg (by decide +kernel), parts]
  simp only [found]
  rfl

theorem begin_projectSample :
  ∃ lint memo, Lint.begin sampleSettings none projectSample .empty sampleDocument =
    (.calls lint, memo) ∧ lint.config = some (.ofText "/.flowconfig") ∧
      lint.call.args = ["coverage", "/a.js", "--json"]
  := by
  have directory : (Path.ofText "/a.js").parent.text = "/" := by decide +kernel
  simp only [Lint.begin, sampleDocument, directory, Locator.findProject, Locator.findUpward,
    walkUpward_projectSample]
  exact ⟨_, _, rfl, rfl, rfl⟩

/-- The reply of a checker that is starting a server. -/
def startingSample : Reply :=
  .failed (.fault (.invocation ["flow", "coverage"] (some 0) (some "")
    (some "Started a new flow server")))

/-- A lint waits, and the host is detached. -/
def leavingSample : List Operation :=
  [.host (.activate false), .host (.lint sampleDocument), .host (.deactivate true)]

/-- A lint that goes on after the host was detached records a server.  When all lints have
ended and no host has been attached again, the server is still recorded, and no stop has
been called. -/
theorem recorded_after_deactivate :
  let operations := leavingSample ++
    [.respond 0 startingSample, .respond 0 (.output sampleText)]
  let s := (start sampleSettings projectSample none).run operations
  s.package.hosted = false ∧ s.jobs = [] ∧ s.package.servers.roots = [⟨.root, []⟩] ∧
    ∀ call, .call call ∈ s.events → call.args ≠ ["stop"]
  := by
  intro operations s
  obtain ⟨lint, memo, begun, config, args⟩ := begin_projectSample
  let first := (start sampleSettings projectSample none).activate
  generalize left : (start sampleSettings projectSample none).run leavingSample = t
  have waits : t = (({ first with next := 1, memo := memo }.emit [.call lint.call]).wait 0
      (.lint lint)).deactivate false := by
    rw [← left, ← deactivate_of_no_server rfl]
    exact congrArg (deactivate · true) (lint_calls (s := first) begun).1
  have jobs : t.jobs = [(0, .lint lint)] := by rw [waits]; rfl
  have waiting : t.waiting = [0] := by rw [waits]; rfl
  have replies : t.replies = [] := by rw [waits]; rfl
  have isOpen : t.package.isOpen lint.document.id = true := by rw [waits]; rfl
  have events : t.events = [.install name, .call lint.call] := by rw [waits]; rfl
  have notice : lint.hear startingSample = .busy (some ⟨.root, []⟩) := by
    have busy : lint.hear startingSample = .busy (Request.startedRoot true lint.config) := rfl
    have parent : (Path.ofText "/.flowconfig").parent = ⟨.root, []⟩ := by decide +kernel
    rw [busy, config, Request.startedRoot, if_pos rfl, Option.map_some, parent]
  have found : t.jobs.lookup 0 = some (.lint lint) := by rw [jobs]; rfl
  -- Of the package that has recorded the server, only this is needed.
  obtain ⟨q, recorded, isOpen', attached, hosted, roots⟩ : ∃ q,
      t.package.recordServer (some ⟨.root, []⟩) = q ∧ q.isOpen lint.document.id = true ∧
        q.attached = false ∧ q.hosted = false ∧ q.servers.roots = [⟨.root, []⟩] := by
    refine ⟨_, rfl, isOpen, ?_, ?_, ?_⟩ <;> rw [waits] <;> rfl
  have again : t.perform (.respond 0 startingSample) =
      ({ t with package := q, waiting := [], jobs := [], replies := [] }.emit
        [.call lint.call]).wait 0 (.lint lint) := by
    simp [perform, respond?, waiting, answer_of_busy found notice isOpen replies, forget, jobs,
      commit, emit, countNotifications, recorded]
  have kept : q.hearReply lint (.output sampleText) =
      ({ q with cache := q.cache.set lint.document.id ⟨3, 1, []⟩ }, [],
        .ended (.ok (some (lint.diagnostics ⟨3, 1, []⟩)))) := by
    rw [hearReply_of_open q lint report_sampleText isOpen']
    simp [keepReport, showsReportOf, attached, Except.map]
  have last : s = (t.perform (.respond 0 startingSample)).perform
      (.respond 0 (.output sampleText)) := by
    rw [← left]
    rfl
  rw [last, again]
  simp [perform, respond?, answer?, forget, hear, kept, commit, emit, wait, endTask, hosted, roots,
    events, args]

end Session

end TypeCoverage.Package
