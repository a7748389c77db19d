import TypeCoverage.Proofs.CommandLine.Conversation

/-!
# How a run ends

A run of `coverage` prints what its lint has come to and then detaches its package, which
stops the server of the project, if one has been recorded and the option `keepServer` is not
given (`Over.shutdown`).  `Finish` says what such a run ends with: its exit code, the calls
that it has made, and whether it has printed that the file was skipped.

`endsOrderly` proves this of every run, whether its settings are refused, its lint never calls
the checker, or the checker is busy with any number of replies before it concludes the lint.  A
run is given a limit on its calls, which makes no difference once it is above the number of
those replies.
-/

namespace TypeCoverage

/-! ### Printed lines -/

namespace Terminal

/-- What precedes the rest of a text is printed first. -/
theorem fillTabs_prefix (column : Nat) (part cs : List Char) :
  part.reverse <+: fillTabs column part cs
  := by
  induction cs generalizing column part with
  | nil => exact List.prefix_refl _
  | cons c cs ih =>
    rw [fillTabs]
    split
    · rw [List.reverse_cons, List.append_assoc, List.append_assoc]
      exact List.prefix_append ..
    · split
      · rw [List.reverse_cons, List.append_assoc]
        exact List.prefix_append ..
      · have longer := ih column (c :: part)
        rw [List.reverse_cons] at longer
        exact (List.prefix_append ..).trans longer

/-- A text is printed with its first character first, unless that is written otherwise. -/
theorem head_printed {s : String} {c : Char} {cs : List Char} (begins : s.toList = c :: cs)
    (still : isMovement c = false) (visible : c ≠ '\t' ∧ c ≠ '\n') :
  (printed s).toList.head? = some c
  := by
  have kept : (plain s).toList = c :: cs.filter (!isMovement ·) := by
    simp [plain, begins, still]
  obtain ⟨rest, printed_eq⟩ := fillTabs_prefix 0 [c] (cs.filter (!isMovement ·))
  rw [printed, kept, fillTabs, if_neg visible.1, if_neg visible.2, ← printed_eq]
  simp

/-- The first character of the sign of a kind of message. -/
def Kind.mark : Kind → Char
  | .info => 'ℹ'
  | .ok => '✅'
  | .warn => '⚠'
  | .fail => '❌'

/-- A message with a sign begins with its mark. -/
theorem head_message (kind : Kind) (text : String) :
  (message true kind text).toList.head? = some kind.mark
  := by
  have begins : ∃ cs, (kind.sign ++ " " ++ text).toList = kind.mark :: cs := by
    cases kind <;> exact ⟨_, by rw [String.toList_append, String.toList_append]; rfl⟩
  obtain ⟨cs, begins⟩ := begins
  rw [message, if_pos rfl]
  apply head_printed begins <;> cases kind <;> decide

end Terminal

/-- The tile of a report is printed with the head of its text. -/
theorem Tile.head_printed_rendering (r : Report) :
  (rendering (some r)).printed.toList.head? = some 'C'
  := by
  have visible : (rendering (some r)).visible = true := rfl
  have named : ∃ cs, (rendering (some r)).text.toList = 'C' :: cs :=
    ⟨_, by rw [rendering, String.toList_append, String.toList_append]; rfl⟩
  obtain ⟨cs, named⟩ := named
  have begins : ∃ cs', (rendering (some r)).line.toList = 'C' :: cs' := by
    rw [line, if_pos visible, String.toList_append, Terminal.plain, named]
    simp [Terminal.isMovement]
  obtain ⟨cs', begins⟩ := begins
  rw [printed, if_pos visible]
  exact Terminal.head_printed begins (by decide) (by decide)

namespace CommandLine

open Package (Session)
open Terminal (message)

variable {σ : Type}

/-! ### What is printed -/

/-- The line that tells that a file was skipped. -/
def skippedLine (o : Options) (file : Path) : String :=
  message o.signs .info ("Skipped " ++ file.name ++ ": no .flowconfig found.")

/-- A lint has answered diagnostics. -/
def Lists (result : Lint.Result) : Prop := ∃ ds, result = .ok (some ds)

theorem head_skippedLine (o : Options) (file : Path) :
  (skippedLine o file).toList.head? = some (if o.signs then 'ℹ' else 'S')
  := by
  cases signs : o.signs with
  | false =>
    have begins : ∃ cs, ("Skipped " ++ file.name ++ ": no .flowconfig found.").toList =
        'S' :: cs := ⟨_, by rw [String.toList_append, String.toList_append]; rfl⟩
    obtain ⟨cs, begins⟩ := begins
    rw [skippedLine, signs, message]
    exact Terminal.head_printed begins (by decide) (by decide)
  | true =>
    rw [skippedLine, signs]
    apply Terminal.head_message

theorem exitCode_endWith (signs : Bool) (output : String) (why : Failure) :
  (endWith signs output why).exitCode = 1
  := by
  cases why <;> rfl

section

variable {o : Options} {file : Path} {p : Package}

/-- After a lint that has ended well something is printed, as the kept report, if there is one,
has a percentage. -/
theorem exists_coverageOutput {report? : Option Report}
    (cached : p.cache.get (some file.text) = report?)
    (writable : ∀ r, report? = some r → r.IsWritable) (result : Option (List Diagnostic)) :
  ∃ output, coverageOutput o file p result = .ok output
  := by
  cases result with
  | none => exact ⟨_, rfl⟩
  | some ds =>
    have percent : ∃ percent?, report?.mapM Report.percent? = some percent? := by
      cases report? with
      | none => exact ⟨none, rfl⟩
      | some r => exact ⟨some r.percent, by simp [(writable r rfl).percent?]⟩
    obtain ⟨percent?, percent⟩ := percent
    simp only [coverageOutput, cached, percent]
    split
    · exact ⟨_, rfl⟩
    · split <;> exact ⟨_, rfl⟩

/-- A run ends well exactly if its lint has answered diagnostics. -/
theorem exitCode_coverageEnding
    (prints : ∀ result, ∃ output, coverageOutput o file p result = .ok output)
    (result : Lint.Result) :
  ((coverageEnding o file p result).exitCode = 0 ↔ Lists result) ∧
    ((coverageEnding o file p result).exitCode = 0 ∨
      (coverageEnding o file p result).exitCode = 1)
  := by
  rcases result with why | result
  · simp [coverageEnding, exitCode_endWith, Lists]
  · obtain ⟨output, prints⟩ := prints result
    cases result <;> simp [coverageEnding, prints, Lists]

/-- Where no report is kept, a file is skipped. -/
theorem coverageOutput_of_no_report (plain : o.json = false)
    (cached : p.cache.get (some file.text) = none) (ds : List Diagnostic) :
  coverageOutput o file p (some ds) = .ok (skippedLine o file)
  := by
  simp [coverageOutput, plain, cached, skippedLine]

/-- Where a report is kept, the tile is printed. -/
theorem coverageOutput_of_report (plain : o.json = false) {r : Report}
    (cached : p.cache.get (some file.text) = some r)
    (shown : p.tile = some (Tile.rendering (some r))) (ds : List Diagnostic) :
  ∃ output, coverageOutput o file p (some ds) = .ok output ∧ output ≠ skippedLine o file
  := by
  simp only [coverageOutput, plain, cached, shown]
  refine ⟨_, rfl, ?_⟩
  intro same
  have head := head_skippedLine o file
  rw [← same] at head
  simp [List.head?_append, Tile.head_printed_rendering] at head
  cases signs : o.signs <;> simp [signs] at head

/-- With signs, only a lint that has answered diagnostics tells that a file was skipped. -/
theorem lists_of_skipped (signs : o.signs = true) {result : Lint.Result}
    (skips : (coverageEnding o file p result).output = skippedLine o file) :
  Lists result
  := by
  have head := head_skippedLine o file
  rw [← skips, signs] at head
  rcases result with why | _ | ds
  · cases why <;> simp [coverageEnding, endWith, signs, Terminal.head_message, Terminal.Kind.mark]
      at head
  · simp [coverageEnding, coverageOutput, signs, Terminal.head_message, Terminal.Kind.mark] at head
  · exact ⟨ds, rfl⟩

end

/-! ### The stop after a lint -/

/-- The calls that stop the server of a project, with the checker that is found for it in some
tree: one, and none if there is no project. -/
inductive Stops (settings : Settings) : Option Path → List Call → Prop where
  | nothing : Stops settings none []
  | once (t : FileTree) (m : Memo) {root : Path} {call : Call}
      (stops : call.IsStop (Locator.resolveExecutable t m root.text settings.executablePath).1
        root (some (.ofInt 60))) :
    Stops settings (some root) [call]

/-- A stop task that waits is over with its reply, whatever that is. -/
theorem converse_of_stop {limit : Nat} (positive : 0 < limit) (w : World σ) {s : Session}
    {id n : Nat} {call : Call} (waiting : s.waiting = [id]) (jobs : s.jobs = [(id, .stop n call)]) :
  (converse limit w s).1 = (w.ask call).2
  := by
  obtain ⟨limit, rfl⟩ := Nat.exists_eq_succ_of_ne_zero (Nat.ne_of_gt positive)
  have calls : s.firstCall? = some call := by simp [Session.firstCall?, waiting, jobs]
  have responds : ({ s with tree := (w.ask call).2.tree } : Session).respond? 0 (w.ask call).1 =
      some (({ s with tree := (w.ask call).2.tree }.forget id).finishStop n) := by
    simp [Session.respond?, Session.answer?, waiting, jobs]
  rw [converse_of_answer calls responds, converse_of_idle]
  simp [Session.finishStop, Session.forget, waiting]

/-- Where one project is recorded, there is one stop task. -/
theorem deactivate_of_one_server {p : Package} {root : Path} (one : p.servers.roots = [root]) :
  ∃ n, (p.deactivate true).2.2 = [⟨n, root⟩]
  := by
  have roots := Package.map_root_deactivate p
  rw [Servers.sorted, one, List.mergeSort_singleton] at roots
  obtain ⟨⟨n, root'⟩, single, rfl⟩ := List.map_eq_singleton_iff.mp roots
  exact ⟨n, single⟩

/-- The server of the project that is recorded is stopped, if that is asked for, however many
calls may be made. -/
theorem Over.shutdown {settings : Settings} {d : String} {result : Lint.Result}
    {report? : Option Report} {root? : Option Path} {s : Session}
    (isOver : Over settings d result report? root? s) (w : World σ) (stop : Bool) :
  ∃ stops w', Stops settings (if stop then root? else none) stops ∧
    w'.calls = w.calls ++ stops ∧
      ∀ limit, 0 < limit → (converse limit w (s.deactivate stop)).1 = w'
  := by
  have kept : ∃ stops w', Stops settings none stops ∧ w'.calls = w.calls ++ stops ∧
      ∀ limit, 0 < limit → (converse limit w (s.deactivate false)).1 = w' := by
    refine ⟨[], w, .nothing, (List.append_nil _).symm, ?_⟩
    intro limit _
    rw [converse_of_idle limit w (s := s.deactivate false) isOver.waiting]
  cases stop with
  | false => exact kept
  | true =>
    have roots := isOver.package.roots
    cases root? with
    | none =>
      rw [Session.deactivate_of_no_server roots]
      exact kept
    | some root =>
      obtain ⟨n, task⟩ := deactivate_of_one_server roots
      rcases detached : s.package.deactivate true with ⟨p, events, tasks⟩
      rw [detached] at task
      obtain rfl : tasks = [⟨n, root⟩] := task
      have same : s.deactivate true =
          Session.runStop settings.executablePath (s.commit (p, events)) ⟨n, root⟩ := by
        rw [← isOver.package.settings, Session.deactivate, detached]
        rfl
      have replies : (s.commit (p, events)).replies = [] := isOver.replies
      obtain ⟨call, stop⟩ : ∃ call, call = Servers.stopCall (Locator.resolveExecutable s.tree
        s.memo root.text settings.executablePath).1 root (some defaultTimeout) := ⟨_, rfl⟩
      have once : Stops settings (some root) [call] :=
        .once s.tree s.memo (stop ▸ Servers.isStop_stopCall ..)
      refine ⟨[call], (w.ask call).2, once, rfl, ?_⟩
      intro limit positive
      -- No reply lies ready for the stop task, so that it waits and is the only one to do so.
      rw [same, Session.runStop, stop]
      simp only [Session.emit, replies]
      rw [converse_of_stop positive w]
      · exact congrArg (· ++ _) isOver.waiting
      · exact congrArg (· ++ _) isOver.jobs

/-! ### Whole runs -/

/-- The project whose server a run stops after its lint, if the checker was busy with some
replies: the nearest one to the file, if its server has been started and is not to be kept. -/
def Due (w : World σ) (file : Path) (o : Options) (busy : List Reply) (root? : Option Path) :
    Prop :=
  ∀ root, root? = some root ↔
    o.keepServer = false ∧ (∃ reply ∈ busy, reply.IsStarting) ∧
      ∃ config, Locator.Nearest w.tree (Path.ofText file.text).parent.text Locator.projectMarker
        config ∧ root = config.parent

/-- How a run ends whose settings are read, after the calls of its lint, in which the checker
was busy with some replies. -/
structure Finish (limit : Nat) (w : World σ) (file : Path) (o : Options) (settings : Settings)
    (calls : List Call) (busy : List Reply) : Prop where
  lints : (lintFile limit w file settings).1.calls = w.calls ++ calls
  /-- The exit code is zero if the lint has answered diagnostics, and one otherwise. -/
  exitCode : ((measure limit w file o).1.exitCode = 0 ↔
      Lists (lintResult (lintFile limit w file settings).2)) ∧
    ((measure limit w file o).1.exitCode = 0 ∨ (measure limit w file o).1.exitCode = 1)
  /-- After the lint the server that is due is stopped, once, and nothing else is called. -/
  stops : ∃ root? stops, Due w file o busy root? ∧ Stops settings root? stops ∧
    (measure limit w file o).2.calls = w.calls ++ calls ++ stops
  /-- A greater limit changes nothing. -/
  limitless : ∀ more, measure (limit + more) w file o = measure limit w file o
  /-- The run ends as if the server were not stopped, whatever becomes of the stop. -/
  kept : (measure limit w file o).1 = (measure limit w file { o with keepServer := true }).1
  /-- The run tells that the file was skipped if the lint has answered diagnostics without a
  call, and only then. -/
  skipped : o.json = false →
    ((measure limit w file o).1.exitCode = 0 ∧
        (measure limit w file o).1.output = skippedLine o file ↔
      Lists (lintResult (lintFile limit w file settings).2) ∧ calls = [])
  /-- With signs, no failure is told in these words. -/
  signed : o.json = false → o.signs = true →
    (measure limit w file o).1.output = skippedLine o file →
      (measure limit w file o).1.exitCode = 0

/-- A run whose lint is over finishes. -/
theorem finish_of_over {limit : Nat} {w w' : World σ} {file : Path} {o : Options}
    {settings : Settings} {calls : List Call} {busy : List Reply} {result : Lint.Result}
    {report? : Option Report} {root? : Option Path} {s : Session}
    (resolved : resolveSettings w file.parent o = .ok settings)
    (ran : lintFile limit w file settings = (w', s)) (called : w'.calls = w.calls ++ calls)
    (isOver : Over settings file.text result report? root? s) (positive : 0 < limit)
    (due : Due w file o busy (if !o.keepServer then root? else none))
    (reports : Lists result → (report? = none ↔ calls = [])) :
  Finish limit w file o settings calls busy
  := by
  have ending : (measure limit w file o).1 = coverageEnding o file s.package result := by
    simp [measure, resolved, ran, isOver.lintResult]
  have same : lintResult (lintFile limit w file settings).2 = result := by
    rw [ran]
    exact isOver.lintResult
  have prints := exists_coverageOutput (o := o) isOver.package.cached isOver.package.writable
  obtain ⟨ends, codes⟩ := exitCode_coverageEnding prints result
  obtain ⟨stops, w'', once, after, shuts⟩ := isOver.shutdown w' !o.keepServer
  constructor
  case lints => rw [ran, called]
  case exitCode =>
    rw [ending, same]
    exact ⟨ends, codes⟩
  case stops =>
    refine ⟨_, stops, due, once, ?_⟩
    rw [← called, ← after, ← shuts limit positive]
    simp [measure, resolved, ran]
  case limitless =>
    intro more
    have done : (lintFile limit w file settings).2.waiting = [] := by
      rw [ran]
      exact isOver.waiting
    have ran' : lintFile (limit + more) w file settings = (w', s) := by
      rw [← ran]
      exact converse_of_done done more
    simp only [measure, resolved, ran, ran', shuts limit positive,
      shuts (limit + more) (Nat.add_pos_left positive more)]
  case kept =>
    have resolved' : resolveSettings w file.parent { o with keepServer := true } =
        .ok settings := resolved
    rw [ending]
    simp only [measure, resolved', ran, isOver.lintResult]
    rfl
  case skipped =>
    intro plain
    rw [ending, same, ends, and_congr_right_iff]
    -- After diagnostics, the output tells whether a report is kept.
    rintro ⟨ds, rfl⟩
    rw [← reports ⟨ds, rfl⟩]
    cases report? with
    | none =>
      simp [coverageEnding, coverageOutput_of_no_report plain isOver.package.cached ds]
    | some r =>
      obtain ⟨output, prints, other⟩ :=
        coverageOutput_of_report plain isOver.package.cached (isOver.package.shown r rfl) ds
      simp [coverageEnding, prints, other]
  case signed =>
    intro plain signs skips
    rw [ending] at skips ⊢
    exact ends.mpr (lists_of_skipped signs skips)

/-- How every run of `coverage` ends. -/
structure EndsOrderly : Prop where
  /-- The command measures the file that it is given, whatever its limit. -/
  command : ∀ (σ : Type) (w : World σ) limit operand o, FileTree.holdsNull operand = false →
    isFileOperand w.tree (operandPath w.tree operand) = true →
      (Command.coverage operand o).run limit w = measure limit w (operandPath w.tree operand) o
  /-- Where the settings are refused, the checker is not called. -/
  refused : ∀ (σ : Type) (w : World σ) limit file o why,
    resolveSettings w file.parent o = .error why →
      (measure limit w file o).1.exitCode = 1 ∧ (measure limit w file o).2 = w
  /-- The lint ends without a call of the checker. -/
  atOnce : ∀ (σ : Type) (w : World σ) limit file o settings result,
    resolveSettings w file.parent o = .ok settings →
    (Lint.begin settings (some defaultTimeout) w.tree .empty (.ofFile file.text)).1 =
      .ended result → 0 < limit →
      lintResult (lintFile limit w file settings).2 = result ∧
        Finish limit w file o settings [] []
  /-- The lint calls the checker until it is no longer busy, and ends with the reply after
  that, however many calls it takes. -/
  talks : ∀ (σ : Type) (w : World σ) limit file o settings lint busy last,
    resolveSettings w file.parent o = .ok settings →
    Talks w file settings lint busy last → last.IsFinal → busy.length < limit →
      (∃ report?, Concludes lint last (lintResult (lintFile limit w file settings).2) report?) ∧
        Finish limit w file o settings (List.replicate (busy.length + 1) lint.call) busy

theorem endsOrderly :
  EndsOrderly
  := by
  constructor
  case command =>
    intro σ w limit operand o plain isFile
    simp [Command.run, plain, isFile]
  case refused =>
    intro σ w limit file o why refuses
    simp only [measure, refuses]
    exact ⟨exitCode_endWith .., trivial⟩
  case atOnce =>
    intro σ w limit file o settings result resolved ended positive
    obtain ⟨s, ran, isOver⟩ := lintFile_of_ended ended limit
    refine ⟨?_, finish_of_over resolved ran (List.append_nil _).symm isOver positive ?_ (by simp)⟩
    · rw [ran]
      exact isOver.lintResult
    · intro root
      simp
  case talks =>
    intro σ w limit file o settings lint busy last resolved talks final enough
    obtain ⟨result, report?, concludes⟩ := exists_concludes final lint
    obtain ⟨root?, s, ran, records, isOver⟩ := lintFile_of_talks talks concludes enough
    constructor
    · rw [ran, isOver.lintResult]
      exact ⟨report?, concludes⟩
    · apply finish_of_over resolved ran (World.calls_askTimes ..) isOver (Nat.zero_lt_of_lt enough)
      · intro root
        have nearest := Lint.config_eq_some_iff rfl talks.begins
        cases kept : o.keepServer with
        | true => simp
        | false => simp [records root, ← nearest, eq_comm]
      · rintro ⟨ds, rfl⟩
        obtain ⟨r, rfl⟩ := concludes.report_of_diagnostics
        simp

/-! ### A server that is started and stopped -/

/-- A project, and a checker that starts a server for it before it answers a report. -/
def startingWorld : World (List Reply) where
  tree := Session.projectSample
  environment := []
  room := 9
  answer := scripted
  checker := [Session.startingSample, .output (reportSample.toJson.render .oneLine)]

theorem resolveSettings_startingWorld :
  resolveSettings startingWorld pathSample.parent optionsSample = .ok settingsSample
  := by
  change (Settings.load startingWorld.room Session.projectSample [] ⟨.root, []⟩).map _ = _
  rw [load_root_of_bare (by decide +kernel) (by decide +kernel)]
  rfl

theorem isStarting_startingSample :
  Session.startingSample.IsStarting
  := by
  have hears : Request.hear Session.startingSample = .busy true := rfl
  obtain ⟨_, _, ended, -⟩ | ⟨starting, busy, -, starts⟩ :=
    Request.hear_cases Session.startingSample
  · rw [hears] at ended
    cases ended
  · rw [hears] at busy
    cases busy
    exact starts.mp rfl

theorem talks_startingWorld :
  ∃ lint, Talks startingWorld pathSample settingsSample lint [Session.startingSample]
    (.output (reportSample.toJson.render .oneLine))
  := by
  have directory : (Path.ofText pathSample.text).parent.text = "/" := by decide +kernel
  have named : pathSample.text ≠ "" := by decide +kernel
  have begins : ∃ lint, (Lint.begin settingsSample (some defaultTimeout) Session.projectSample
      .empty (.ofFile pathSample.text)).1 = .calls lint := by
    simp only [Lint.begin, Document.ofFile, directory, if_neg named, Locator.findProject,
      Locator.findUpward, Session.walkUpward_projectSample]
    exact ⟨_, rfl⟩
  obtain ⟨lint, begins⟩ := begins
  refine ⟨lint, begins, rfl, ?_⟩
  rintro reply mem
  obtain rfl := List.mem_singleton.mp mem
  exact isStarting_startingSample.isBusy

/-- The run ends well, and the server that was started for the project is stopped. -/
theorem endsOrderly_starting :
  (measure 2 startingWorld pathSample optionsSample).1.exitCode = 0 ∧
    ∃ call stop, (measure 2 startingWorld pathSample optionsSample).2.calls =
        [call, call, stop] ∧
      stop.executable = "flow" ∧ stop.args = ["stop"] ∧ stop.cwd = some ⟨.root, []⟩ ∧
        stop.detached = true ∧ stop.ignoreExitCode = true
  := by
  obtain ⟨lint, talks⟩ := talks_startingWorld
  have parsed : Report.parse (reportSample.toJson.render .oneLine) = .ok reportSample :=
    Report.parse_render_of_areShort (by decide +kernel) .oneLine
  have writable : (Reply.output (reportSample.toJson.render .oneLine)).IsWritable := by
    intro r brings
    rw [Reply.report?, parsed] at brings
    obtain rfl : reportSample = r := Option.some.inj brings
    simp [Report.IsWritable, Report.total, reportSample, Decimal.digitCount, Report.digitLimit]
  obtain ⟨⟨report?, concludes⟩, finish⟩ := endsOrderly.talks _ startingWorld 2 pathSample
    optionsSample settingsSample lint _ _ resolveSettings_startingWorld talks (.output writable)
    (by decide)
  constructor
  · exact finish.exitCode.1.mpr ⟨_, concludes.result_of_parse parsed⟩
  · obtain ⟨root?, stops, due, once, calls⟩ := finish.stops
    have recorded : root? = some ⟨.root, []⟩ := by
      have directory : (Path.ofText pathSample.text).parent.text = "/" := by decide +kernel
      refine (due _).mpr ⟨rfl, ⟨_, List.mem_singleton_self _, isStarting_startingSample⟩,
        .ofText "/.flowconfig", ?_, by decide +kernel⟩
      rw [directory]
      exact Locator.walkUpward_eq_some_iff.mp Session.walkUpward_projectSample
    subst recorded
    cases once with
    | once t m stops =>
      exact ⟨lint.call, _, calls, stops.executable, stops.args, stops.cwd, stops.detached,
        stops.ignoreExitCode⟩

end CommandLine

end TypeCoverage
