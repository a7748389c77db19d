import TypeCoverage.Proofs.Settings.Layering
import TypeCoverage.Proofs.Toml.Room

/-!
# Failures that settings files let through

Settings that cannot be used are refused with a message, and a command that needs them
tells it and ends.  Four kinds of settings files are not refused but end the loading with
a failure that nobody expects (`Escapes`): one that is not in UTF-8, one with an integer
that is too long to be read, one in which values are nested too deep for the room there is
(`Toml.parse_nestedText`), and a project file in which `tool` is no table.

`contained` says that these are all, for any bytes in the nearest files and any environment,
and what every command makes of each kind.
-/

namespace TypeCoverage

namespace Settings

variable {room : Nat} {t : FileTree} {env : Environment} {root start : Path}

/-- The search for a name ends at a regular file that can be read, or finds none. -/
def Searched (t : FileTree) (start : Path) (name : String) : Prop :=
  (∃ n content, NearestFile t start name n content) ∨ NoFile t start name

/-- The bytes of a file spoil the reading of it, with a failure that is no refusal. -/
inductive Spoils (room : Nat) (content : List UInt8) : Failure → Prop
  | undecodable (malformed : Text.decodeStrict content = none) : Spoils room content .undecodable
  | tooLong {text : String} (decodes : Text.decodeStrict content = some text)
      (integer : Toml.parse room text = .error .integerTooLong) :
    Spoils room content (.badValue none)
  | tooDeep {text : String} (decodes : Text.decodeStrict content = some text)
      (nested : Toml.parse room text = .error .tooDeep) : Spoils room content .tooDeep

/-- The settings files let a failure through that is no refusal. -/
inductive Escapes (room : Nat) (t : FileTree) (start : Path) : Failure → Prop
  | projectBytes {n : Nat} {content : List UInt8} {why : Failure}
      (found : NearestFile t start "pyproject.toml" n content)
      (spoils : Spoils room content why) :
    Escapes room t start why
  | tool {n : Nat} {content : List UInt8} {top : Members} {value : Datum}
      (found : NearestFile t start "pyproject.toml" n content) (writes : Writes room content top)
      (tool : top.lookup "tool" = some value) (other : ∀ tools, value ≠ .table tools) :
    Escapes room t start (.noAttribute value.kindName "get")
  | fileBytes {n : Nat} {content : List UInt8} {why : Failure} {project : Members}
      (layer : ProjectLayer room t start project)
      (found : NearestFile t start ".flowcov.toml" n content)
      (spoils : Spoils room content why) :
    Escapes room t start why

/-! ### Reading the files -/

theorem Spoils.not_fault {content : List UInt8} {why : Failure}
    (spoils : Spoils room content why) (fault : Fault) :
  why ≠ .fault fault
  := by
  cases spoils <;> simp

/-- A failure that is let through is none of the library's own. -/
theorem Escapes.not_fault {why : Failure} (escapes : Escapes room t start why) (fault : Fault) :
  why ≠ .fault fault
  := by
  cases escapes with
  | projectBytes found spoils => apply spoils.not_fault
  | tool found writes tool other => simp
  | fileBytes layer found spoils => apply spoils.not_fault

theorem readFile_of_spoils {content : List UInt8} {why : Failure}
    (spoils : Spoils room content why) (path : Path) :
  readFile room path content = .error why
  := by
  cases spoils with
  | undecodable malformed => simp [readFile, malformed]
  | tooLong decodes integer => simp [readFile, decodes, integer]
  | tooDeep decodes nested => simp [readFile, decodes, nested]

/-- A file is read, refused or spoilt. -/
theorem readFile_cases (room : Nat) (path : Path) (content : List UInt8) :
  (∃ top, Writes room content top) ∨ (∃ why, readFile room path content = refuse why) ∨
    ∃ why, Spoils room content why
  := by
  cases decodes : Text.decodeStrict content with
  | none => exact .inr (.inr ⟨_, .undecodable decodes⟩)
  | some text =>
    cases parses : Toml.parse room text with
    | ok top => exact .inl ⟨top, text, decodes, parses⟩
    | error refusal =>
      cases refusal with
      | malformed => exact .inr (.inl ⟨.unreadable path.text, by simp [readFile, decodes, parses]⟩)
      | integerTooLong => exact .inr (.inr ⟨_, .tooLong decodes parses⟩)
      | tooDeep => exact .inr (.inr ⟨_, .tooDeep decodes parses⟩)

theorem section?_of_other {top : Members} {value : Datum} (tool : top.lookup "tool" = some value)
    (other : ∀ tools, value ≠ .table tools) (path : Path) :
  Settings.section? path top = .error (.noAttribute value.kindName "get")
  := by
  cases value with
  | table tools => exact absurd rfl (other tools)
  | _ => simp [section?, member, tool]

/-- A project file has a section for the settings, which may be left out, or the section is
refused, or the file has no place for it. -/
theorem section?_cases (path : Path) (top : Members) :
  (∃ inner, SectionOf top inner) ∨ (∃ why, Settings.section? path top = refuse why) ∨
    ∃ value, top.lookup "tool" = some value ∧ ∀ tools, value ≠ .table tools
  := by
  cases tool : top.lookup "tool" with
  | none => exact .inl ⟨[], .noTool tool⟩
  | some value =>
    by_cases table : ∃ tools, value = .table tools
    · obtain ⟨tools, rfl⟩ := table
      cases own : tools.lookup "flowcov" with
      | none => exact .inl ⟨[], .noSection tool own⟩
      | some inner =>
        cases inner with
        | table inner => exact .inl ⟨inner, .present tool own⟩
        | _ => exact .inr (.inl ⟨.notTable path.text, by simp [section?, member, tool, own]⟩)
    · exact .inr (.inr ⟨value, rfl, fun tools same => table ⟨tools, same⟩⟩)

/-! ### Loading -/

theorem projectLayer_cases (room : Nat) (searched : Searched t start "pyproject.toml") :
  (∃ project, ProjectLayer room t start project) ∨
    (∃ why, projectLayer room t start = refuse why) ∨ ∃ why, Escapes room t start why
  := by
  obtain ⟨n, content, found⟩ | missing := searched
  · have reads : nearest room t start "pyproject.toml" = _ :=
      nearest_of_nearestFile (by decide) found
    obtain ⟨top, writes⟩ | ⟨why, refused⟩ | ⟨why, spoils⟩ :=
      readFile_cases room (start.above "pyproject.toml" n) content
    · have cases := section?_cases (start.above "pyproject.toml" n) top
      obtain ⟨inner, own⟩ | ⟨why, refused⟩ | ⟨value, tool, other⟩ := cases
      · exact .inl ⟨inner, .present found writes own⟩
      · refine .inr (.inl ⟨why, ?_⟩)
        rw [projectLayer, projectFile, reads, readFile_of_writes writes]
        exact refused
      · exact .inr (.inr ⟨_, .tool found writes tool other⟩)
    · refine .inr (.inl ⟨why, ?_⟩)
      rw [projectLayer, projectFile, reads, refused]
      rfl
    · exact .inr (.inr ⟨why, .projectBytes found spoils⟩)
  · exact .inl ⟨[], .absent missing⟩

theorem fileLayer_cases {project : Members} (layer : ProjectLayer room t start project)
    (searched : Searched t start ".flowcov.toml") :
  (∃ file, FileLayer room t start file) ∨ (∃ why, fileLayer room t start = refuse why) ∨
    ∃ why, Escapes room t start why
  := by
  obtain ⟨n, content, found⟩ | missing := searched
  · obtain ⟨top, writes⟩ | ⟨why, refused⟩ | ⟨why, spoils⟩ :=
      readFile_cases room (start.above ".flowcov.toml" n) content
    · exact .inl ⟨top, .present found writes⟩
    · refine .inr (.inl ⟨why, ?_⟩)
      rw [fileLayer, settingsFile, nearest_of_nearestFile (by decide) found, refused]
      rfl
    · exact .inr (.inr ⟨why, .fileBytes layer found spoils⟩)
  · exact .inl ⟨[], .absent missing⟩

theorem load_of_escapes {why : Failure} (env : Environment)
    (at_start : startOf t root = .ok start) (escapes : Escapes room t start why) :
  load room t env root = .error why
  := by
  rw [load, at_start]
  cases escapes with
  | projectBytes found spoils =>
    have fails : projectLayer room t start = .error why := by
      rw [projectLayer, projectFile, nearest_of_nearestFile (by decide) found,
        readFile_of_spoils spoils]
      rfl
    simp only [fails]
  | @tool n content top value found writes tool other =>
    have fails : projectLayer room t start = .error (.noAttribute value.kindName "get") := by
      rw [projectLayer, projectFile, nearest_of_nearestFile (by decide) found,
        readFile_of_writes writes]
      exact section?_of_other tool other _
    simp only [fails]
  | fileBytes layer found spoils =>
    have fails : fileLayer room t start = .error why := by
      rw [fileLayer, settingsFile, nearest_of_nearestFile (by decide) found,
        readFile_of_spoils spoils]
      rfl
    simp only [projectLayer_eq layer, fails]

/-- Where the files let nothing through, settings are loaded or refused. -/
theorem load_of_not_escapes (env : Environment) (at_start : startOf t root = .ok start)
    (project : Searched t start "pyproject.toml") (file : Searched t start ".flowcov.toml")
    (clean : ∀ why, ¬ Escapes room t start why) :
  (∃ s, load room t env root = .ok s) ∨
    ∃ why, load room t env root = .error (.fault (.config why))
  := by
  obtain ⟨project, layer⟩ | ⟨why, refused⟩ | ⟨why, escapes⟩ :=
    projectLayer_cases room project
  · obtain ⟨file, layer'⟩ | ⟨why, refused⟩ | ⟨why, escapes⟩ := fileLayer_cases layer file
    · rw [load_eq_combined env at_start layer layer']
      exact combined_ok_or_refused project file env
    · refine .inr ⟨why, ?_⟩
      rw [load, at_start]
      simp only [projectLayer_eq layer, refused]
      rfl
    · exact absurd escapes (clean why)
  · refine .inr ⟨why, ?_⟩
    rw [load, at_start]
    simp only [refused]
    rfl
  · exact absurd escapes (clean why)

end Settings

namespace CommandLine

open Settings

variable {σ : Type}

/-- The path for which a command loads settings, if its operand is one for it. -/
def Command.root? (t : FileTree) : Command → Option Path
  | .coverage operand _ =>
    if FileTree.holdsNull operand then none
    else if isFileOperand t (operandPath t operand) then some (operandPath t operand).parent
    else none
  | .stop operand _ | .config operand _ =>
    if FileTree.holdsNull operand then none
    else if isFileOperand t (operandPath t operand) then none
    else some (operandPath t operand)

/-- The options of a command. -/
def Command.options : Command → Options
  | .coverage _ o | .stop _ o | .config _ o => o

/-- A command whose settings cannot be loaded does nothing but end with the failure. -/
theorem run_of_load_error {w : World σ} {root : Path} {why : Failure}
    (fails : load w.room w.tree w.environment root = .error why) {command : Command}
    (own : command.root? w.tree = some root) (limit : Nat) :
  command.run limit w = (endWith command.options.signs "" why, w)
  := by
  have resolve (o : Options) : resolveSettings w root o = .error why := by
    rw [resolveSettings, fails]
    rfl
  cases command with
  | coverage operand o =>
    simp only [Command.root?] at own
    split at own
    · contradiction
    · next plain =>
      split at own
      · next file =>
        obtain rfl := Option.some.inj own
        simp only [Command.run, if_neg plain, if_pos file, measure, resolve, Command.options]
      · contradiction
  | stop operand o =>
    simp only [Command.root?] at own
    split at own
    · contradiction
    · next plain =>
      split at own
      · contradiction
      · next directory =>
        obtain rfl := Option.some.inj own
        simp only [Command.run, if_neg plain, if_neg directory, stopServer, resolve,
          Command.options]
  | config operand o =>
    simp only [Command.root?] at own
    split at own
    · contradiction
    · next plain =>
      split at own
      · contradiction
      · next directory =>
        obtain rfl := Option.some.inj own
        simp only [Command.run, if_neg plain, if_neg directory, printSettings, fails,
          Command.options]

/-- Which failures to load settings are told in a message. -/
structure Contained (w : World σ) (root start : Path) : Prop where
  /-- A failure that the settings files let through ends the loading, and every command that
  loads these settings ends with it and without a message. -/
  escaped : ∀ why, Escapes w.room w.tree start why →
    load w.room w.tree w.environment root = .error why ∧ (∀ fault, why ≠ .fault fault) ∧
      ∀ command : Command, command.root? w.tree = some root →
        ∀ limit, command.run limit w = (⟨1, "", some why⟩, w)
  /-- Otherwise the settings are loaded or refused. -/
  loaded_or_refused : (∀ why, ¬ Escapes w.room w.tree start why) →
    (∃ s, load w.room w.tree w.environment root = .ok s) ∨
      ∃ why, load w.room w.tree w.environment root = .error (.fault (.config why))
  /-- A refusal is told in a message by every command that loads these settings. -/
  told : ∀ why, load w.room w.tree w.environment root = .error (.fault (.config why)) →
    ∀ command : Command, command.root? w.tree = some root → ∀ limit, command.run limit w =
      (⟨1, Terminal.message command.options.signs .fail why.message, none⟩, w)

/-- Whatever bytes stand in the nearest settings files, however much room there is to read
them and whatever the environment says, the failures to load settings are contained. -/
theorem contained (w : World σ) {root start : Path}
    (at_start : startOf w.tree root = .ok start)
    (project : Searched w.tree start "pyproject.toml")
    (file : Searched w.tree start ".flowcov.toml") :
  Contained w root start
  := by
  constructor
  case escaped =>
    intro why escapes
    have fails := load_of_escapes w.environment at_start escapes
    refine ⟨fails, escapes.not_fault, ?_⟩
    intro command own limit
    rw [run_of_load_error fails own]
    cases why with
    | fault fault => exact absurd rfl (escapes.not_fault fault)
    | _ => rfl
  case loaded_or_refused =>
    intro clean
    exact load_of_not_escapes w.environment at_start project file clean
  case told =>
    intro why refused command own limit
    rw [run_of_load_error refused own, endWith, String.empty_append]
    rfl

/-! ### A settings file that is not in UTF-8 -/

/-- A settings file with a single byte that begins no character. -/
def spoiltSample : World Unit where
  tree := { entries := [([".flowcov.toml"], .file [0xff] false)], here := [] }
  environment := []
  room := 9
  answer _ tree state := (.exhausted, tree, state)
  checker := ()

/-- The directory of the settings file. -/
def spoiltStart : Path := ⟨.root, []⟩

theorem searched_spoilt :
  startOf spoiltSample.tree spoiltStart = .ok spoiltStart ∧
    NoFile spoiltSample.tree spoiltStart "pyproject.toml" ∧
    NearestFile spoiltSample.tree spoiltStart ".flowcov.toml" 0 [0xff]
  := by
  have at_start : startOf spoiltSample.tree spoiltStart = .ok spoiltStart := by cbv
  have missing : spoiltSample.tree.walk (spoiltStart.above "pyproject.toml" 0) = .missing := by
    simp [FileTree.walk, FileTree.walkFrom, FileTree.startOf, FileTree.entry?, spoiltSample,
      spoiltStart, Path.above, Path.isAbsolute]
    decide +kernel
  have found : spoiltSample.tree.walk (spoiltStart.above ".flowcov.toml" 0) =
      .found [".flowcov.toml"] (.file [0xff] false) := by
    simp [FileTree.walk, FileTree.walkFrom, FileTree.startOf, FileTree.entry?, spoiltSample,
      spoiltStart, Path.above, Path.isAbsolute]
    decide +kernel
  refine ⟨at_start, ?_, ?_⟩
  · intro m le
    obtain rfl : m = 0 := Nat.le_zero.mp le
    exact ⟨none, by rw [FileTree.probe, missing], rfl⟩
  · refine ⟨Nat.le_refl _, ⟨_, _, found⟩, ?_⟩
    intro m below le
    exact absurd le (Nat.not_le_of_lt below)

theorem contained_spoilt :
  startOf spoiltSample.tree spoiltStart = .ok spoiltStart ∧
    Searched spoiltSample.tree spoiltStart "pyproject.toml" ∧
    Searched spoiltSample.tree spoiltStart ".flowcov.toml" ∧
    Contained spoiltSample spoiltStart spoiltStart
  := by
  obtain ⟨at_start, missing, found⟩ := searched_spoilt
  have project : Searched spoiltSample.tree spoiltStart "pyproject.toml" := .inr missing
  have file : Searched spoiltSample.tree spoiltStart ".flowcov.toml" := .inl ⟨_, _, found⟩
  exact ⟨at_start, project, file, contained spoiltSample at_start project file⟩

/-- The settings file is not refused, and `config` ends without a message. -/
theorem undecodable_escapes :
  startOf spoiltSample.tree spoiltStart = .ok spoiltStart ∧
    NoFile spoiltSample.tree spoiltStart "pyproject.toml" ∧
    NearestFile spoiltSample.tree spoiltStart ".flowcov.toml" 0 [0xff] ∧
    load spoiltSample.room spoiltSample.tree spoiltSample.environment spoiltStart =
      .error .undecodable ∧
    run 0 spoiltSample ["config", "/"] = (⟨1, "", some .undecodable⟩, spoiltSample)
  := by
  obtain ⟨at_start, missing, found⟩ := searched_spoilt
  have malformed : Text.decodeStrict [0xff] = none := by cbv
  have fails : load spoiltSample.room spoiltSample.tree spoiltSample.environment spoiltStart =
      .error .undecodable :=
    load_of_escapes _ at_start (.fileBytes (.absent missing) found (.undecodable malformed))
  have command : Command.ofArguments? ["config", "/"] = some (.config "/" {}) := by cbv
  have own : (Command.config "/" {}).root? spoiltSample.tree = some spoiltStart := by cbv
  refine ⟨at_start, missing, found, fails, ?_⟩
  rw [run, command]
  exact run_of_load_error fails own 0

end CommandLine

end TypeCoverage
