import Mathlib
import TypeCoverage.CommandLine.Run
import TypeCoverage.Proofs.Settings.Nearest
import TypeCoverage.Proofs.Settings.Winning

/-!
# Layered settings

The settings for a directory come from the sections of two files and the environment, over
the defaults.  `Determined` says of the tables in the files what the loaded settings are,
that they are refused exactly if something is `Wrong` with the layers, and that nothing
else matters.  `Layered` adds where the files come from, and what the options of a command
put above the layers; `layered` proves it for every tree, every starting directory, every
environment and all options.
-/

namespace TypeCoverage

namespace Settings

variable {env : Environment} {project file : Members}

/-! ### The settings from the layers -/

/-- The settings from the tables of the two files and the environment. -/
def combined (project file : Members) (env : Environment) : Except Failure Settings :=
  match environmentLayer env Field.all with
  | .error e => .error e
  | .ok environment =>
    match ofTable (merged project file environment) with
    | .ok settings => .ok settings
    | .error findings => refuse (.invalid findings)

/-- What is wrong with the layers of settings: a key of a file spells no field, a flag of
the environment has no word for a truth value, or a winning value fails its check. -/
inductive Wrong (env : Environment) (file project : Members) : Prop
  | projectKey (unknown : ¬ Known project)
  | fileKey (unknown : ¬ Known file)
  | flag (bad : HasBadFlag env Field.all)
  | value {f : Field} {d : Datum} {findings : List Finding} (wins : Wins env file project f d)
    (fails : f.check d = .error findings)

theorem combined_eq_ok_iff {s : Settings} :
  combined project file env = .ok s ↔
    Known project ∧ Known file ∧ ¬ HasBadFlag env Field.all ∧
      ∀ f, Valued env file project f (s.get f)
  := by
  rw [combined]
  obtain ⟨environment, ok, good, layer⟩ | ⟨⟨why, refused⟩, bad⟩ :=
    environmentLayer_cases env Field.nodup_all
  · have same : ofTable (merged project file environment) = .ok s ↔
        Known project ∧ Known file ∧ ∀ f, Valued env file project f (s.get f) := by
      rw [ofTable_eq_ok_iff, unusedKeys_merged layer]
      simp only [checkIn_merged layer]
      rw [and_comm, and_assoc]
    simp only [ok, good, not_false_eq_true, true_and, ← same]
    cases ofTable (merged project file environment) <;> simp [refuse]
  · simp [refused, bad, refuse]

theorem combined_ok_or_refused (project file : Members) (env : Environment) :
  (∃ s, combined project file env = .ok s) ∨ ∃ why, combined project file env = refuse why
  := by
  rw [combined]
  obtain ⟨environment, ok, -⟩ | ⟨⟨why, refused⟩, -⟩ :=
    environmentLayer_cases env Field.nodup_all
  · simp only [ok]
    cases ofTable (merged project file environment) with
    | ok s => exact .inl ⟨s, rfl⟩
    | error findings => exact .inr ⟨_, rfl⟩
  · rw [refused]
    exact .inr ⟨why, rfl⟩

/-- The layers give settings unless something is wrong with them. -/
theorem exists_combined_iff :
  (∃ s, combined project file env = .ok s) ↔ ¬ Wrong env file project
  := by
  simp only [combined_eq_ok_iff]
  obtain ⟨environment, -, good, layer⟩ | ⟨-, bad⟩ := environmentLayer_cases env Field.nodup_all
  · constructor
    · rintro ⟨s, project, file, -, valued⟩ (unknown | unknown | bad | ⟨wins, fails⟩)
      · exact unknown project
      · exact unknown file
      · exact good bad
      · exact (exists_valued_iff layer _).mp ⟨_, valued _⟩ ⟨_, _, wins, fails⟩
    · intro right
      have valued (f : Field) : ∃ v, Valued env file project f v := by
        rw [exists_valued_iff layer]
        rintro ⟨d, findings, wins, fails⟩
        exact right (.value wins fails)
      obtain ⟨s, values⟩ := exists_get_eq fun f => (valued f).choose
      refine ⟨s, ?_, ?_, good, ?_⟩
      · exact Classical.byContradiction fun unknown => right (.projectKey unknown)
      · exact Classical.byContradiction fun unknown => right (.fileKey unknown)
      · intro f
        rw [values f]
        exact (valued f).choose_spec
  · constructor
    · rintro ⟨s, -, -, good, -⟩
      exact absurd bad good
    · intro right
      exact absurd (.flag bad) right

theorem combined_refused_iff :
  (∃ why, combined project file env = refuse why) ↔ Wrong env file project
  := by
  obtain ⟨s, ok⟩ | ⟨why, refused⟩ := combined_ok_or_refused project file env
  · have right := exists_combined_iff.mp ⟨s, ok⟩
    simp [ok, right, refuse]
  · have wrong : Wrong env file project := by
      apply Classical.byContradiction
      intro right
      obtain ⟨s, ok⟩ := exists_combined_iff.mpr right
      rw [refused] at ok
      contradiction
    rw [refused]
    exact ⟨fun _ => wrong, fun _ => ⟨why, rfl⟩⟩

/-- The environment counts only through the variables of the fields. -/
theorem environmentLayer_congr {env env' : Environment}
    (same : ∀ f, env'.lookup (variableName f) = env.lookup (variableName f)) (fs : List Field) :
  environmentLayer env' fs = environmentLayer env fs
  := by
  induction fs with
  | nil => rfl
  | cons f fs ih => rw [environmentLayer, environmentLayer, same, ih]

theorem load_eq_combined (env : Environment) {room : Nat} {t : FileTree} {root start : Path}
    (at_start : startOf t root = .ok start)
    (projectLayer : ProjectLayer room t start project) (fileLayer : FileLayer room t start file) :
  load room t env root = combined project file env
  := by
  rw [load, at_start]
  simp only [projectLayer_eq projectLayer, fileLayer_eq fileLayer]
  rw [combined]
  cases environmentLayer env Field.all <;> rfl

/-- A search that is stopped ends the loading with a failure of the file system. -/
theorem load_of_searchStopped {room : Nat} {t : FileTree} {root start : Path}
    (at_start : startOf t root = .ok start) {n : Nat}
    (stopped : SearchStopped t start "pyproject.toml" n ∨
      (∃ project, ProjectLayer room t start project) ∧ SearchStopped t start ".flowcov.toml" n) :
  ∃ path, load room t env root = .error (.file .nameTooLong path)
  := by
  rw [load, at_start]
  obtain stopped | ⟨⟨project, layer⟩, stopped⟩ := stopped
  · have fails : projectLayer room t start =
        .error (.file .nameTooLong (start.above "pyproject.toml" n).text) := by
      rw [projectLayer, projectFile, nearest_of_searchStopped (by decide) stopped]
    simp only [fails]
    exact ⟨_, rfl⟩
  · have fails : fileLayer room t start =
        .error (.file .nameTooLong (start.above ".flowcov.toml" n).text) := by
      rw [fileLayer, settingsFile, nearest_of_searchStopped (by decide) stopped]
      rfl
    simp only [projectLayer_eq layer, fails]
    exact ⟨_, rfl⟩

/-! ### What determines the settings -/

/-- What the tables in the nearest files and the variables of the fields say of the settings
that are loaded. -/
structure Determined (room : Nat) (t : FileTree) (env : Environment) (root : Path)
    (project file : Members) : Prop where
  /-- Each field has the value from the highest layer that defines it. -/
  loaded : ∀ s, load room t env root = .ok s ↔
    ¬ Wrong env file project ∧ ∀ f, Valued env file project f (s.get f)
  /-- The settings are refused exactly if something is wrong with the layers. -/
  refused : (∃ why, load room t env root = .error (.fault (.config why))) ↔ Wrong env file project
  /-- They are loaded or refused. -/
  loaded_or_refused : (∃ s, load room t env root = .ok s) ∨
    ∃ why, load room t env root = .error (.fault (.config why))
  /-- Nothing else in the tree or in the environment counts. -/
  alone : ∀ (t' : FileTree) (env' : Environment) (root' start' : Path),
    startOf t' root' = .ok start' →
    ProjectLayer room t' start' project → FileLayer room t' start' file →
    (∀ f, env'.lookup (variableName f) = env.lookup (variableName f)) →
      load room t' env' root' = load room t env root

theorem determined {room : Nat} {t : FileTree} {root start : Path}
    (at_start : startOf t root = .ok start)
    (projectLayer : ProjectLayer room t start project) (fileLayer : FileLayer room t start file) :
  Determined room t env root project file
  := by
  have same := load_eq_combined env at_start projectLayer fileLayer
  constructor
  case loaded =>
    intro s
    rw [same]
    constructor
    · intro ok
      obtain ⟨-, -, -, valued⟩ := combined_eq_ok_iff.mp ok
      exact ⟨exists_combined_iff.mp ⟨s, ok⟩, valued⟩
    · rintro ⟨right, valued⟩
      obtain ⟨s', ok⟩ := exists_combined_iff.mpr right
      obtain ⟨known, known', good, -⟩ := combined_eq_ok_iff.mp ok
      exact combined_eq_ok_iff.mpr ⟨known, known', good, valued⟩
  case refused =>
    rw [same]
    apply combined_refused_iff
  case loaded_or_refused =>
    rw [same]
    apply combined_ok_or_refused
  case alone =>
    intro t' env' root' start' at_start' projectLayer' fileLayer' agree
    rw [same, load_eq_combined env' at_start' projectLayer' fileLayer', combined, combined,
      environmentLayer_congr agree]

end Settings

namespace CommandLine

open Settings

variable {σ : Type}

/-- What the options say about a field. -/
def Options.given (o : Options) : (f : Field) → Option f.Carrier
  | .executablePath => o.executable
  | .onlyIfAppropriate => o.onlyIfAppropriate
  | .showUncovered => o.showUncovered
  | .hyperclickPriority => none

theorem resolveSettings_eq_ok_iff {w : World σ} {root : Path} {o : Options} {s' : Settings} :
  resolveSettings w root o = .ok s' ↔
    ∃ s, load w.room w.tree w.environment root = .ok s ∧ ∀ f, s'.get f = (o.given f).getD (s.get f)
  := by
  rw [resolveSettings]
  cases load w.room w.tree w.environment root with
  | error e => simp [Except.map]
  | ok s =>
    constructor
    · intro ok
      refine ⟨s, rfl, ?_⟩
      rw [← Except.ok.inj ok]
      rintro (_ | _ | _ | _) <;> rfl
    · rintro ⟨_, ⟨⟩, given⟩
      apply congrArg Except.ok
      apply eq_of_get_eq
      intro f
      rw [given f]
      cases f <;> rfl

/-- How the settings of a run come about: where the two files are found, what they and the
environment determine, and what the options replace. -/
structure Layered (w : World σ) (root start : Path) : Prop where
  /-- The search for a file finds the nearest one, or none, unless it is stopped. -/
  searched : ∀ name, (∃ n content, NearestFile w.tree start name n content) ∨
    NoFile w.tree start name ∨ ∃ n, SearchStopped w.tree start name n
  /-- A search that is stopped fails, and not because of the settings. -/
  stopped : ∀ n, SearchStopped w.tree start "pyproject.toml" n ∨
    (∃ project, ProjectLayer w.room w.tree start project) ∧
      SearchStopped w.tree start ".flowcov.toml" n →
    ∃ path, load w.room w.tree w.environment root = .error (.file .nameTooLong path)
  /-- Otherwise the tables in the files and the environment determine the settings. -/
  determined : ∀ project file, ProjectLayer w.room w.tree start project →
    FileLayer w.room w.tree start file →
      Determined w.room w.tree w.environment root project file
  /-- Options replace what was loaded, field by field. -/
  overridden : ∀ o s', resolveSettings w root o = .ok s' ↔
    ∃ s, load w.room w.tree w.environment root = .ok s ∧ ∀ f, s'.get f = (o.given f).getD (s.get f)
  /-- They do not mend a failure. -/
  failed : ∀ o e, resolveSettings w root o = .error e ↔
    load w.room w.tree w.environment root = .error e

/-- The settings of a run are layered. -/
theorem layered (w : World σ) {root start : Path}
    (at_start : startOf w.tree root = .ok start) :
  Layered w root start
  := by
  constructor
  case searched => exact search_cases w.tree start
  case stopped =>
    intro n stopped
    exact load_of_searchStopped at_start stopped
  case determined =>
    intro project file projectLayer fileLayer
    exact Settings.determined at_start projectLayer fileLayer
  case overridden =>
    intro o s'
    exact resolveSettings_eq_ok_iff
  case failed =>
    intro o e
    rw [resolveSettings]
    cases load w.room w.tree w.environment root <;> simp [Except.map]

/-! ### A project with both files -/

/-- The text of a project file. -/
def sampleProjectText : String := "tool.flowcov.show_uncovered=true"

/-- The text of a settings file. -/
def sampleFileText : String := "showUncovered=false"

/-- A project file, and a settings file in a directory below it. -/
def sample : World Unit where
  tree :=
    { entries :=
        [(["pyproject.toml"], .file (Text.encodeUtf8 sampleProjectText) false),
         (["a"], .directory),
         (["a", ".flowcov.toml"], .file (Text.encodeUtf8 sampleFileText) false)]
      here := [] }
  environment := [("FLOWCOV_HYPERCLICK_PRIORITY", "7")]
  room := 9
  answer _ tree state := (.exhausted, tree, state)
  checker := ()

/-- The directory of the settings file. -/
def sampleStart : Path := ⟨.root, ["a"]⟩

/-- The section in the project file. -/
def sampleProject : Members := [("show_uncovered", .boolean true)]

/-- The table in the settings file. -/
def sampleFile : Members := [("showUncovered", .boolean false)]

theorem walk_sample :
  sample.tree.walk (sampleStart.above "pyproject.toml" 1) = .missing ∧
    sample.tree.walk (sampleStart.above "pyproject.toml" 0) =
      .found ["pyproject.toml"] (.file (Text.encodeUtf8 sampleProjectText) false) ∧
    sample.tree.walk (sampleStart.above ".flowcov.toml" 1) =
      .found ["a", ".flowcov.toml"] (.file (Text.encodeUtf8 sampleFileText) false)
  := by
  simp only [Path.above, sampleStart, List.take, List.nil_append, List.cons_append]
  refine ⟨?_, ?_, ?_⟩
  all_goals
    simp [FileTree.walk, FileTree.walkFrom, FileTree.startOf, FileTree.entry?, sample,
      Path.isAbsolute]
    decide +kernel

theorem projectLayer_sample :
  ProjectLayer sample.room sample.tree sampleStart sampleProject
  := by
  obtain ⟨missing, walk, -⟩ := walk_sample
  have found : NearestFile sample.tree sampleStart "pyproject.toml" 0
      (Text.encodeUtf8 sampleProjectText) := by
    refine ⟨Nat.zero_le _, ⟨_, _, walk⟩, ?_⟩
    intro m below le
    obtain rfl : m = 1 := Nat.le_antisymm le below
    exact ⟨none, by rw [FileTree.probe, missing], rfl⟩
  have writes : Writes sample.room (Text.encodeUtf8 sampleProjectText)
      [("tool", .table [("flowcov", .table sampleProject)])] :=
    ⟨sampleProjectText, by cbv, by cbv⟩
  exact .present found writes (.present rfl rfl)

theorem fileLayer_sample :
  FileLayer sample.room sample.tree sampleStart sampleFile
  := by
  obtain ⟨-, -, walk⟩ := walk_sample
  have found : NearestFile sample.tree sampleStart ".flowcov.toml" 1
      (Text.encodeUtf8 sampleFileText) := by
    refine ⟨Nat.le_refl _, ⟨_, _, walk⟩, ?_⟩
    intro m below le
    exact absurd le (Nat.not_le_of_lt below)
  exact .present found ⟨sampleFileText, by cbv, by cbv⟩

/-- The variable wins over both files, the settings file over the project file in another
spelling, and the option over all. -/
theorem layered_sample :
  startOf sample.tree sampleStart = .ok sampleStart ∧
    load sample.room sample.tree sample.environment sampleStart = .ok ⟨"", false, false, 7⟩ ∧
    (∀ f, Valued sample.environment sampleFile sampleProject f
      ((⟨"", false, false, 7⟩ : Settings).get f)) ∧
    resolveSettings sample sampleStart { executable := some "c" } =
      .ok ⟨"c", false, false, 7⟩
  := by
  have at_start : startOf sample.tree sampleStart = .ok sampleStart := by cbv
  have all := layered sample at_start
  have layers := all.determined _ _ projectLayer_sample fileLayer_sample
  have ok : load sample.room sample.tree sample.environment sampleStart =
      .ok ⟨"", false, false, 7⟩ := by
    rw [load_eq_combined _ at_start projectLayer_sample fileLayer_sample]
    rfl
  refine ⟨at_start, ok, ((layers.loaded _).mp ok).2, (all.overridden _ _).mpr ⟨_, ok, ?_⟩⟩
  rintro (_ | _ | _ | _) <;> rfl

end CommandLine

end TypeCoverage
