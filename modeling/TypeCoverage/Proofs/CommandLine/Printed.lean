import TypeCoverage.CommandLine.Run
import TypeCoverage.Proofs.Package.Coherence
import TypeCoverage.Proofs.Package.Ledger
import TypeCoverage.Proofs.Package.Tasks
import TypeCoverage.Proofs.Report.RoundTrip
import TypeCoverage.Proofs.Settings.Nearest

/-!
# The JSON document of a run

A run of `coverage` lints a file with a package of its own.  `Stage` says what the lint has
come to: it waits for the checker and nothing is cached, or it is over, and a report that is
cached was read from a reply and is the one that the lint answers diagnostics of.  A reply
takes one stage to the next (`Stage.respond`), and so does every conversation with the
checker (`Stage.converse`).

What is printed then `Shows` the report: it is read as a document whose report is read back
as the cached one, with its percentage and a note for each of its regions.
-/

namespace TypeCoverage.CommandLine

open Json (Value Fits)
open Package (Session)

variable {σ : Type}

/-! ### The lint of a file -/

/-- A report was read from a text, and a result with diagnostics has those of the report. -/
def Answers (file : Path) (shown : Bool) (result : Lint.Result) (r : Report) : Prop :=
  (∃ payload, Report.parse payload = .ok r) ∧
    ∀ ds, result = .ok (some ds) → ds = r.diagnostics file.text shown

/-- A report that is kept is the one of which diagnostics are answered. -/
theorem answers_of_parse {file : Path} {shown : Bool} {lint : Lint.Pending} {payload : String}
    {r : Report} (own : lint.file = file.text) (shows : lint.showUncovered = shown)
    (parsed : Report.parse payload = .ok r) (kept : Except Failure Unit) :
  Answers file shown (kept.map fun _ => some (lint.diagnostics r)) r
  := by
  refine ⟨⟨payload, parsed⟩, ?_⟩
  intro ds result
  cases kept with
  | error why => contradiction
  | ok =>
    rw [← own, ← shows]
    exact (Option.some.inj (Except.ok.inj result)).symm

/-- What the lint of a file has come to. -/
inductive Stage (file : Path) (shown : Bool) (s : Session) : Prop
  | waits {task : Nat} {lint : Lint.Pending} (waiting : s.waiting = [task])
      (jobs : s.jobs = [(task, .lint lint)]) (replies : s.replies = []) (ended : s.ended = [])
      (empty : s.package.cache = .empty) (document : lint.document.id = file.text)
      (own : lint.file = file.text) (shows : lint.showUncovered = shown)
  | finished (waiting : s.waiting = [])
      (answers : ∀ r, s.package.cache.get (some file.text) = some r →
        Answers file shown (lintResult s) r)

namespace Stage

variable {file : Path} {shown : Bool} {s s' : Session}

theorem finished_of_empty (waiting : s.waiting = []) (empty : s.package.cache = .empty) :
  Stage file shown s
  := by
  apply Stage.finished waiting
  intro r cached
  rw [empty] at cached
  contradiction

/-- The tree may change between two calls. -/
theorem changeTree (stage : Stage file shown s) (tree : FileTree) :
  Stage file shown { s with tree := tree }
  := by
  cases stage with
  | waits waiting jobs replies ended empty document own shows =>
    exact .waits waiting jobs replies ended empty document own shows
  | finished waiting answers => exact .finished waiting answers

/-- A lint hears the reply that it has been waiting for. -/
theorem respond (stage : Stage file shown s) {reply : Reply}
    (responds : s.respond? 0 reply = some s') :
  Stage file shown s'
  := by
  cases stage with
  | finished waiting answers => simp [Session.respond?, waiting] at responds
  | @waits task lint waiting jobs replies ended empty document own shows =>
    have found : s.jobs.lookup task = some (.lint lint) := by simp [jobs]
    have answered : s.answer? task reply = some s' := by
      simpa [Session.respond?, waiting] using responds
    have waiting' : (s.forget task).waiting = [] := by simp [Session.forget, waiting]
    have cases := s.package.hearReply_cases lint reply
    rcases heard : s.package.hearReply lint reply with ⟨p, events, result | _⟩
    · obtain rfl := Option.some.inj ((Session.answer_of_ended found heard).symm.trans answered)
      rw [heard] at cases
      obtain ⟨r, brings, kept⟩ | same := cases
      · simp only [Prod.mk.injEq, Package.LintStep.ended.injEq] at kept
        obtain ⟨text, -, parsed⟩ := Reply.parse_of_report? brings
        refine .finished waiting' ?_
        intro r' cached
        have same : p.cache.get (some file.text) = some r := by
          rw [kept.1, Package.cache_keepReport, Cache.get_set, if_pos document.symm]
        obtain rfl := Option.some.inj (same.symm.trans cached)
        have first : lintResult (((s.forget task).commit (p, events)).endTask task result) =
            result := by
          simp [lintResult, Session.endTask, Session.commit, Session.emit, Session.forget, ended]
        rw [first, kept.2.2]
        exact answers_of_parse own shows parsed _
      · exact finished_of_empty waiting' (same.trans empty)
    · obtain rfl := Option.some.inj
        ((Session.answer_of_again found heard replies).symm.trans answered)
      rw [heard] at cases
      obtain ⟨r, -, kept⟩ | same := cases
      · simp at kept
      · have jobs' : (s.forget task).jobs = [] := by simp [Session.forget, jobs]
        exact .waits (congrArg (· ++ [task]) waiting')
          (congrArg (· ++ [(task, Package.Job.lint lint)]) jobs') rfl ended (same.trans empty)
          document own shows

theorem converse (stage : Stage file shown s) (limit : Nat) (w : World σ) :
  Stage file shown (CommandLine.converse limit w s).2
  := by
  induction limit generalizing w s with
  | zero => exact stage
  | succ limit ih =>
    rw [CommandLine.converse]
    split
    · exact stage
    · simp only
      split
      · exact stage
      · next responds => exact ih ((stage.changeTree _).respond responds) _

end Stage

theorem stage_lintFile (limit : Nat) (w : World σ) (file : Path) (settings : Settings) :
  Stage file settings.showUncovered (lintFile limit w file settings).2
  := by
  have own : (sessionOf w file settings).package.settings = settings := rfl
  have replies : (sessionOf w file settings).replies = [] := rfl
  apply Stage.converse
  rcases begun : Lint.begin (sessionOf w file settings).package.settings
    (sessionOf w file settings).timeout (sessionOf w file settings).tree
    (sessionOf w file settings).memo (.ofFile file.text) with ⟨result | lint, memo⟩
  · rw [(Session.lint_ended begun).1]
    exact .finished_of_empty rfl rfl
  · obtain ⟨path, config, executable, saved, rfl⟩ := Lint.begin_calls_eq begun
    obtain rfl : file.text = path := Option.some.inj saved
    rw [(Session.lint_calls begun).1, replies, own]
    exact .waits rfl rfl rfl rfl rfl rfl rfl rfl

/-- A report that the lint of a file has cached is the one that it answers. -/
theorem answers_lintFile {limit : Nat} {w : World σ} {file : Path} {settings : Settings}
    {r : Report}
    (cached : (lintFile limit w file settings).2.package.cache.get (some file.text) = some r) :
  Answers file settings.showUncovered (lintResult (lintFile limit w file settings).2) r
  := by
  cases stage_lintFile limit w file settings with
  | waits _ _ _ _ empty =>
    rw [empty] at cached
    contradiction
  | finished _ answers => exact answers r cached

/-! ### The document -/

/-- The note on a region that is not covered. -/
structure IsNote (v : Value) (region : Region) : Prop where
  range : ∃ w, v.Has "range" w ∧ Report.readRegion w = .ok region
  level : v.Has "level" (.text "note")

/-- A document shows a report, and its regions if they are to be shown. -/
structure Shows (v : Value) (r : Report) (shown : Bool) : Prop where
  /-- Its report is read back. -/
  report : ∃ w, v.Has "report" w ∧ ∀ layout, Report.parse (w.render layout) = .ok r
  percent : ∃ n, r.percent? = some n ∧ v.Has "percent" (.integer n)
  /-- There is one note for each region that is shown, in order. -/
  diagnostics : ∃ items, v.Has "diagnostics" (.array items) ∧
    List.Forall₂ IsNote items (if shown then r.regions else [])

theorem isNote_toJson (region : Region) (file : String) :
  IsNote (region.diagnostic file).toJson region
  where
  range := ⟨_, Json.has_iff.mpr rfl,
    Report.readRegion_eq_ok_iff.mpr (Report.isRegion_toJson region)⟩
  level := Json.has_iff.mpr rfl

theorem shows_document (file : String) {r : Report} (short : Report.AreShort r.numbers) {n : Nat}
    (percent : r.percent? = some n) (shown : Bool) :
  Shows (document file (some r) (some n) (r.diagnostics file shown)) r shown
  where
  report := ⟨_, Json.has_iff.mpr rfl, Report.parse_render_of_areShort short⟩
  percent := ⟨n, percent, Json.has_iff.mpr rfl⟩
  diagnostics := by
    refine ⟨_, Json.has_iff.mpr rfl, ?_⟩
    cases shown with
    | false => exact .nil
    | true =>
      rw [Report.diagnostics, if_pos rfl, if_pos rfl, List.map_map, List.forall₂_map_left_iff]
      exact List.forall₂_same.mpr fun region _ => isNote_toJson region file

theorem fits_diagnostic {d : Diagnostic} {n : Nat} (short : Report.AreShort d.range.numbers)
    (depth : n + 3 ≤ Json.depthLimit) :
  Fits n d.toJson
  := by
  have range : Fits (n + 1) d.range.toJson := Report.fits_region short depth
  have text (s : String) : Fits (n + 1) (.text s) := .atom (by omega) trivial
  refine .object (by omega) ?_
  simp [range, text]

/-- The document of a report with short numbers can be written. -/
theorem fits_document (file : String) {r : Report} (short : Report.AreShort r.numbers) {n : Nat}
    (percent : r.percent? = some n) (shown : Bool) :
  Fits 0 (document file (some r) (some n) (r.diagnostics file shown))
  := by
  have own : Fits 1 (.text file) := .atom (by decide) trivial
  have report : Fits 1 r.toJson := Report.fits_report short (by decide)
  have written : Fits 1 (.integer n) := .atom (by decide) (Report.isShort_percent percent)
  have diagnostics : Fits 1 (.array ((r.diagnostics file shown).map Diagnostic.toJson)) := by
    refine .array (by decide) ?_
    rw [List.forall_mem_map]
    intro d mem
    obtain ⟨region, listed, rfl⟩ : ∃ region ∈ r.regions, region.diagnostic file = d := by
      cases shown with
      | false => contradiction
      | true => exact List.mem_map.mp mem
    rw [Report.numbers, Report.areShort_cons, Report.areShort_cons,
      Report.areShort_flatMap] at short
    exact fits_diagnostic (short.2.2 region listed) (by decide)
  refine .object (by decide) ?_
  simp [own, report, written, diagnostics]

/-- A document is read from what is printed of it. -/
theorem parse?_printed {v : Value} (fits : Fits 0 v) :
  Json.parse? (v.render .indented ++ "\n") = some v
  := by
  have element : Json.Phrase 0 (.element v) (v.render .indented).toList :=
    fits.writes_render .indented
  apply Json.parse?_eq_some_iff.mpr
  rw [Json.Writes, String.toList_append]
  exact element.append_blank (by simp [Json.Blank, Json.isSpace])

/-! ### Reading documents back -/

/-- What is written of reports is read back. -/
structure ReadsBack : Prop where
  /-- A report that was read is read again from its document, in every layout. -/
  report : ∀ payload r, Report.parse payload = .ok r →
    ∀ layout, Report.parse (r.toJson.render layout) = .ok r
  /-- A run that prints JSON shows the report that its lint has cached, if the lint answers
  diagnostics, whatever the checker replies and however many calls it may be asked. -/
  printed : ∀ (σ : Type) (w : World σ) limit file o settings r ds,
    o.json = true → resolveSettings w file.parent o = .ok settings →
    (lintFile limit w file settings).2.package.cache.get (some file.text) = some r →
    lintResult (lintFile limit w file settings).2 = .ok (some ds) →
      ∃ v, Json.parse? (measure limit w file o).1.output = some v ∧
        Shows v r settings.showUncovered

theorem readsBack :
  ReadsBack
  := by
  constructor
  case report =>
    intro payload r parsed layout
    exact Report.parse_render parsed layout
  case printed =>
    intro σ w limit file o settings r ds json resolved cached answered
    obtain ⟨⟨payload, parsed⟩, own⟩ := answers_lintFile cached
    have short := Report.areShort_of_parse parsed
    have percent := Report.percent?_of_areShort short
    have output : (measure limit w file o).1.output =
        (document file.text (some r) (some r.percent) ds).render .indented ++ "\n" := by
      simp [measure, resolved, coverageEnding, answered, coverageOutput, json, cached, percent]
    rw [output, own ds answered]
    exact ⟨_, parse?_printed (fits_document file.text short percent _),
      shows_document _ short percent _⟩

/-! ### A report of one region -/

/-- A report with a region that is not covered. -/
def reportSample : Report := ⟨3, 1, [⟨⟨1, 2⟩, ⟨1, 5⟩, none⟩]⟩

/-- An empty tree, and a checker that answers the report. -/
def worldSample : World (List Reply) where
  tree := ⟨[], []⟩
  environment := []
  room := 9
  answer := scripted
  checker := [.output (reportSample.toJson.render .oneLine)]

/-- The file that is linted. -/
def pathSample : Path := ⟨.root, ["a.js"]⟩

/-- The options of the run. -/
def optionsSample : Options :=
  { executable := some "flow", showUncovered := some true, json := true }

/-- The settings of the run. -/
def settingsSample : Settings := { executablePath := "flow", showUncovered := true }

/-- Where no settings are kept in the root, all of them are as they are by default. -/
theorem load_root_of_bare {room : Nat} {t : FileTree}
    (noProject : t.entry? ["pyproject.toml"] = none)
    (noFile : t.entry? [".flowcov.toml"] = none) :
  Settings.load room t [] ⟨.root, []⟩ = .ok {}
  := by
  have missing : t.walk ((⟨.root, []⟩ : Path).above "pyproject.toml" 0) = .missing ∧
      t.walk ((⟨.root, []⟩ : Path).above ".flowcov.toml" 0) = .missing := by
    simp [FileTree.walk, FileTree.walkFrom, FileTree.startOf, Path.above, Path.isAbsolute,
      noProject, noFile]
    decide +kernel
  have absent {name : String} (missing : t.walk ((⟨.root, []⟩ : Path).above name 0) = .missing) :
      NoFile t ⟨.root, []⟩ name := by
    intro m le
    obtain rfl : m = 0 := Nat.le_zero.mp le
    exact ⟨none, by rw [FileTree.probe, missing], rfl⟩
  have at_start : Settings.startOf t ⟨.root, []⟩ = .ok ⟨.root, []⟩ := by
    have plain : FileTree.holdsNull (Path.text ⟨.root, []⟩) = false := by decide +kernel
    have real : t.realName ⟨.root, []⟩ = [] := by
      simp [FileTree.realName, FileTree.startOf, FileTree.resolveFrom, FileTree.collapse,
        Path.isAbsolute]
    have found : t.walk ⟨.root, []⟩ = .found [] .directory := by
      simp [FileTree.walk, FileTree.startOf, FileTree.walkFrom, plain, Path.isAbsolute]
      decide +kernel
    simp [Settings.startOf, plain, real, found]
  rw [Settings.load, at_start]
  simp only [Settings.projectLayer_eq (.absent (absent missing.1)),
    Settings.fileLayer_eq (.absent (absent missing.2))]
  rfl

theorem resolveSettings_sample :
  resolveSettings worldSample pathSample.parent optionsSample = .ok settingsSample
  := by
  change (Settings.load worldSample.room ⟨[], []⟩ [] ⟨.root, []⟩).map _ = _
  rw [load_root_of_bare rfl rfl]
  rfl

theorem converse_of_answer {limit : Nat} {w : World σ} {s s' : Session} {call : Call}
    (calls : s.firstCall? = some call)
    (answered : ({ s with tree := (w.ask call).2.tree } : Session).respond? 0 (w.ask call).1 =
      some s') :
  converse (limit + 1) w s = converse limit (w.ask call).2 s'
  := by simp only [converse, calls, answered]

/-- The lint of the file waits for the checker. -/
theorem lint_pathSample :
  ∃ (lint : Lint.Pending) (memo : Memo), lint.document.id = pathSample.text ∧
    (sessionOf worldSample pathSample settingsSample).lint (.ofFile pathSample.text) =
      ({ sessionOf worldSample pathSample settingsSample with next := 1, memo := memo }.emit
        [.call lint.call]).wait 0 (.lint lint)
  := by
  have document : Document.ofFile pathSample.text = ⟨"/a.js", some "/a.js"⟩ := by decide +kernel
  have forgetful : Memo.empty.find? ⟨"/", Locator.projectMarker⟩ = none := rfl
  obtain ⟨lint, memo, begun, own, -⟩ :=
    Session.begin_sample_of (some defaultTimeout) "/a.js" true (Or.inl forgetful)
  refine ⟨lint, memo, own.trans (congrArg Document.id document).symm, ?_⟩
  rw [document]
  exact (Session.lint_calls (s := sessionOf worldSample pathSample settingsSample) begun).1

/-- The total of the report can be written. -/
theorem keepReport_reportSample (p : Package) (document : String) :
  (p.keepReport document reportSample).result = .ok ()
  := by
  have writable : reportSample.IsWritable := by
    simp [Report.IsWritable, Report.digitLimit, Report.total, reportSample, Decimal.digitCount]
  rw [Package.keepReport]
  split
  · exact Tile.result_reportCalls writable
  · rfl

/-- The reply ends the lint. -/
theorem lintFile_sample :
  (lintFile 1 worldSample pathSample settingsSample).2.package.cache.get (some pathSample.text) =
      some reportSample ∧
    ∃ ds, lintResult (lintFile 1 worldSample pathSample settingsSample).2 = .ok (some ds)
  := by
  obtain ⟨lint, memo, own, same⟩ := lint_pathSample
  generalize lints : (sessionOf worldSample pathSample settingsSample).lint
    (.ofFile pathSample.text) = s at same
  have short : Report.AreShort reportSample.numbers := by decide +kernel
  have brings : (Reply.output (reportSample.toJson.render .oneLine)).report? =
      some reportSample := by
    rw [Reply.report?, Report.parse_render_of_areShort short]
    rfl
  have isOpen : s.package.isOpen lint.document.id = true := by
    rw [same]
    rfl
  have jobs : s.jobs.lookup 0 = some (.lint lint) := by
    rw [same]
    rfl
  have waiting : s.waiting = [0] := by
    rw [same]
    rfl
  have heard := Package.hearReply_of_open _ lint brings isOpen
  rw [keepReport_reportSample] at heard
  obtain ⟨s', concluded⟩ : ∃ s', s' = ((s.forget 0).commit
    ((s.package.keepReport lint.document.id reportSample).package,
      (s.package.keepReport lint.document.id reportSample).events)).endTask 0
        (.ok (some (lint.diagnostics reportSample))) := ⟨_, rfl⟩
  have answered : s.answer? 0 (.output (reportSample.toJson.render .oneLine)) = some s' := by
    rw [concluded]
    exact Session.answer_of_ended jobs heard
  have calls : s.firstCall? = some lint.call := by simp [Session.firstCall?, waiting, jobs]
  have responds : ({ s with tree := (worldSample.ask lint.call).2.tree } : Session).respond? 0
      (worldSample.ask lint.call).1 = some s' := by
    rw [← answered]
    simp only [Session.respond?, waiting]
    rw [same]
    rfl
  have reached : (lintFile 1 worldSample pathSample settingsSample).2 = s' := by
    rw [lintFile, lints, converse_of_answer calls responds]
    rfl
  rw [reached, concluded]
  constructor
  · change (s.package.keepReport lint.document.id reportSample).package.cache.get _ = _
    rw [Package.cache_keepReport, Cache.get_set, if_pos own.symm]
  · have ended : s.ended = [] := by
      rw [same]
      rfl
    refine ⟨lint.diagnostics reportSample, ?_⟩
    simp [lintResult, Session.endTask, Session.commit, Session.emit, Session.forget, ended]

/-- The run prints a document that shows the report. -/
theorem readsBack_sample :
  ∃ v, Json.parse? (measure 1 worldSample pathSample optionsSample).1.output = some v ∧
    Shows v reportSample true
  := by
  obtain ⟨cached, ds, answered⟩ := lintFile_sample
  exact readsBack.printed _ worldSample 1 pathSample optionsSample settingsSample reportSample ds
    rfl resolveSettings_sample cached answered

end TypeCoverage.CommandLine
