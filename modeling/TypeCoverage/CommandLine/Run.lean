import TypeCoverage.CommandLine.Arguments
import TypeCoverage.Invocation.Timeline
import TypeCoverage.Package.Session
import TypeCoverage.Report.Document
import TypeCoverage.Settings.Layers
import TypeCoverage.Table
import TypeCoverage.Terminal

/-!
# Running commands

A command runs against a file tree, the variables of the environment and something that
answers the calls of the checker (`World`).  `coverage` drives a package with a single
document: it lints the document, prints the tile and the table, or a JSON document, and
stops the servers that the lint has started.  `stop` stops the server of a root, and
`config` prints the settings for it.

The answer of a run is its exit code and its output, and the failure that ended it if it
was none of the library's own.
-/

namespace TypeCoverage.CommandLine

open Terminal (message)

/-- A file tree, the environment, the room there is to read settings files, and a checker with
a state of its own, which may change the tree. -/
structure World (σ : Type) where
  tree : FileTree
  environment : Settings.Environment
  room : Nat
  answer : Call → FileTree → σ → Reply × FileTree × σ
  checker : σ
  /-- The calls made so far. -/
  calls : List Call := []

/-- How a run has ended. -/
structure Ending where
  exitCode : Nat
  output : String := ""
  failure : Option Failure := none

variable {σ : Type}

/-- The checker answers a call. -/
def World.ask (w : World σ) (call : Call) : Reply × World σ :=
  let (reply, tree, checker) := w.answer call w.tree w.checker
  (reply, { w with tree := tree, checker := checker, calls := w.calls ++ [call] })

/-- Answers the calls of a session, one after another, until none waits. -/
def converse : Nat → World σ → Package.Session → World σ × Package.Session
  | 0, w, s => (w, s)
  | fuel + 1, w, s =>
    match s.firstCall? with
    | none => (w, s)
    | some call =>
      let (reply, w) := w.ask call
      match ({ s with tree := w.tree } : Package.Session).respond? 0 reply with
      | none => (w, s)
      | some s => converse fuel w s

/-- How a run ends with a failure: the library's own are told in a message. -/
def endWith (signs : Bool) (output : String) : Failure → Ending
  | .fault why => ⟨1, output ++ message signs .fail why.message, none⟩
  | why => ⟨1, output, some why⟩

/-- The settings for a directory, under the options given. -/
def resolveSettings (w : World σ) (start : Path) (o : Options) : Except Failure Settings :=
  (Settings.load w.room w.tree w.environment start).map fun s =>
    { s with
      executablePath := o.executable.getD s.executablePath
      showUncovered := o.showUncovered.getD s.showUncovered
      onlyIfAppropriate := o.onlyIfAppropriate.getD s.onlyIfAppropriate }

/-- The JSON document about a file. -/
def document (file : String) (report : Option Report) (percent : Option Nat)
    (ds : List Diagnostic) : Json.Value :=
  .object
    [("file", .text file),
     ("report", (report.map Report.toJson).getD .null),
     ("percent", (percent.map fun n => Json.Value.integer n).getD .null),
     ("diagnostics", .array (ds.map Diagnostic.toJson))]

/-- The output after a lint that ended well. -/
def coverageOutput (o : Options) (file : Path) (p : Package) :
    Option (List Diagnostic) → Except Failure String
  | none => .ok (message o.signs .warn "Coverage request was superseded; no result.")
  | some ds =>
    let report := p.cache.get (some file.text)
    if o.json then
      match report.mapM Report.percent? with
      | none => .error .overflow
      | some percent => .ok ((document file.text report percent ds).render .indented ++ "\n")
    else if report.isNone then
      .ok (message o.signs .info ("Skipped " ++ file.name ++ ": no .flowconfig found."))
    else .ok ((p.tile.getD {}).printed ++ (if ds.isEmpty then "" else Table.printed ds))

/-- How a run of `coverage` ends after its lint. -/
def coverageEnding (o : Options) (file : Path) (p : Package) : Lint.Result → Ending
  | .error why => endWith o.signs "" why
  | .ok result =>
    match coverageOutput o file p result with
    | .error why => ⟨1, "", some why⟩
    | .ok output => ⟨if result.isSome then 0 else 1, output, none⟩

/-- A session of a package of its own in which a file is active. -/
def sessionOf (w : World σ) (file : Path) (settings : Settings) : Package.Session :=
  let doc := Document.ofFile file.text
  let s : Package.Session :=
    { package := .ofSettings settings, tree := w.tree, focus := some doc }
  let s := s.activate
  let (s, _) := s.commitEffect (s.package.activeChanged (some doc.id))
  let (s, _) := s.commitEffect s.package.consumeStatusBar
  s

/-- Lints a file, with at most `limit` calls. -/
def lintFile (limit : Nat) (w : World σ) (file : Path) (settings : Settings) :
    World σ × Package.Session :=
  converse limit w ((sessionOf w file settings).lint (.ofFile file.text))

/-- The result of the first task that has ended; where none has, the lint was replaced. -/
def lintResult (s : Package.Session) : Lint.Result :=
  (s.ended.head?.map (·.2)).getD (.ok none)

/-- Measures the coverage of a file; the lint and the stop tasks make at most `limit` calls
each. -/
def measure (limit : Nat) (w : World σ) (file : Path) (o : Options) : Ending × World σ :=
  match resolveSettings w file.parent o with
  | .error why => (endWith o.signs "" why, w)
  | .ok settings =>
    let (w, s) := lintFile limit w file settings
    let ending := coverageEnding o file s.package (lintResult s)
    let (w, _) := converse limit w (s.deactivate !o.keepServer)
    (ending, w)

/-- Stops the server of a root; how the checker answers does not matter. -/
def stopServer (w : World σ) (root : Path) (o : Options) : Ending × World σ :=
  match resolveSettings w root { executable := o.executable } with
  | .error why => (endWith o.signs "" why, w)
  | .ok settings =>
    let (executable, _) :=
      Locator.resolveExecutable w.tree .empty root.text settings.executablePath
    let (_, w) := w.ask (Servers.stopCall executable root (some defaultTimeout))
    (⟨0, message o.signs .ok ("Requested flow server stop in " ++ root.text), none⟩, w)

/-- The settings as a JSON document. -/
def settingsDocument (s : Settings) : Json.Value :=
  .object (Field.all.map fun f => (f.camelName, match f with
    | .executablePath => Json.Value.text s.executablePath
    | .onlyIfAppropriate => .boolean s.onlyIfAppropriate
    | .showUncovered => .boolean s.showUncovered
    | .hyperclickPriority => .integer s.hyperclickPriority))

/-- Prints the settings for a root.  A priority with too many digits cannot be written. -/
def printSettings (w : World σ) (root : Path) (o : Options) : Ending :=
  match Settings.load w.room w.tree w.environment root with
  | .error why => endWith o.signs "" why
  | .ok settings =>
    if Datum.digitLimit < Decimal.digitCount settings.hyperclickPriority.natAbs then
      ⟨1, "", some (.badValue none)⟩
    else ⟨0, (settingsDocument settings).render .indented ++ "\n", none⟩

/-- The exit code of a usage error. -/
def usageError : Ending := ⟨2, "", none⟩

/-- The path that an operand stands for, without links. -/
def operandPath (t : FileTree) (operand : String) : Path :=
  ⟨.root, t.realName (Path.ofText operand)⟩

/-- Whether an operand is a file that can be measured. -/
def isFileOperand (t : FileTree) (path : Path) : Bool :=
  match t.walk path with
  | .found _ (.file ..) => true
  | _ => false

/-- Runs a command; a lint and the stop tasks make at most `limit` calls each. -/
def Command.run (limit : Nat) (w : World σ) : Command → Ending × World σ
  | .coverage operand o =>
    if FileTree.holdsNull operand then (⟨1, "", some (.badValue none)⟩, w)
    else
      let file := operandPath w.tree operand
      if isFileOperand w.tree file then measure limit w file o else (usageError, w)
  | .stop operand o =>
    if FileTree.holdsNull operand then (⟨1, "", some (.badValue none)⟩, w)
    else
      let root := operandPath w.tree operand
      if isFileOperand w.tree root then (usageError, w) else stopServer w root o
  | .config operand o =>
    if FileTree.holdsNull operand then (⟨1, "", some (.badValue none)⟩, w)
    else
      let root := operandPath w.tree operand
      if isFileOperand w.tree root then (usageError, w) else (printSettings w root o, w)

/-- Runs the command that some arguments give. -/
def run (limit : Nat) (w : World σ) (args : List String) : Ending × World σ :=
  match Command.ofArguments? args with
  | none => (usageError, w)
  | some command => command.run limit w

/-- A checker that gives the replies of a list. -/
def scripted : Call → FileTree → List Reply → Reply × FileTree × List Reply
  | _, t, [] => (.exhausted, t, [])
  | _, t, reply :: replies => (reply, t, replies)

/-- A checker that is started as a program, in an environment. -/
def started (programs : Programs) (call : Call) (t : FileTree)
    (environment : List (String × String)) : Reply × FileTree × List (String × String) :=
  let (reply?, s) := ({ programs, tree := t, environment } : Timeline).run call
  (reply?.getD .replaced, s.tree, environment)

end TypeCoverage.CommandLine
