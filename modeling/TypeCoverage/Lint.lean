import TypeCoverage.Diagnostic
import TypeCoverage.Locator
import TypeCoverage.Request
import TypeCoverage.Settings.Basic

/-!
# Linting a document

A lint begins by looking for the project of the document and for the checker, and either
ends at once or waits for the checker's reply (`Lint.begin`).  Each reply that it hears
ends it, makes it call again if the document is still open, or brings a report
(`Lint.hear`).  What is done with a report is up to the owner of the cache.
-/

namespace TypeCoverage

/-- A document of the editor; one that has never been saved has no path. -/
structure Document where
  id : String
  path : Option String
  deriving DecidableEq, Repr

/-- The document for a file, known by its path. -/
def Document.ofFile (path : String) : Document := ⟨path, some path⟩

namespace Lint

/-- The diagnostics of a lint that ended well, or none if the old ones should stay. -/
abbrev Result : Type := Except Failure (Option (List Diagnostic))

/-- A lint that waits for the checker. -/
structure Pending where
  document : Document
  file : String
  showUncovered : Bool
  config : Option Path
  call : Call
  deriving Repr

/-- How a lint begins. -/
inductive Begun where
  | ended (result : Result)
  | calls (pending : Pending)

/-- The key under which a later call for a document replaces an earlier one. -/
def uniqueKey (document : String) : String := "flowcov-coverage:" ++ document

/-- The call that asks the checker for the coverage of a file. -/
def coverageCall (executable file document : String) (timeout : Option Binary64) : Call :=
  { executable := executable
    args := ["coverage", file, "--json"]
    cwd := some (Path.ofText file).parent
    timeout := timeout
    ignoreExitCode := true
    uniqueKey := some (uniqueKey document) }

/-- Begins a lint.  A document without a path, or outside a project where that is not
appropriate, has no diagnostics. -/
def begin (settings : Settings) (timeout : Option Binary64) (t : FileTree) (m : Memo)
    (document : Document) : Begun × Memo :=
  match document.path with
  | none => (.ended (.ok (some [])), m)
  | some file =>
    if file = "" then (.ended (.ok (some [])), m)
    else
      let directory := (Path.ofText file).parent.text
      match Locator.findProject t m directory with
      | (.error e, m) => (.ended (.error e), m)
      | (.ok config, m) =>
        if settings.onlyIfAppropriate && config.isNone then (.ended (.ok (some [])), m)
        else
          let (executable, m) :=
            Locator.resolveExecutable t m directory settings.executablePath
          (.calls
            { document := document
              file := file
              showUncovered := settings.showUncovered
              config := config
              call := coverageCall executable file document.id timeout }, m)

/-- What a reply means for a lint. -/
inductive Heard where
  | ended (result : Result)
  /-- The checker is busy, and is perhaps starting a server for a project. -/
  | busy (root : Option Path)
  | report (report : Report)

/-- Judges a reply. -/
def Pending.hear (p : Pending) (reply : Reply) : Heard :=
  match Request.hear reply with
  | .busy starting => .busy (Request.startedRoot starting p.config)
  | .ended (.error e) _ => .ended (.error e)
  | .ended (.ok none) _ => .ended (.ok none)
  | .ended (.ok (some payload)) _ =>
    match Report.parse payload with
    | .error why => .ended (.error (.fault (.report (.refused why))))
    | .ok report => .report report

/-- The diagnostics that a lint answers with a report. -/
def Pending.diagnostics (p : Pending) (report : Report) : List Diagnostic :=
  report.diagnostics p.file p.showUncovered

end Lint

end TypeCoverage
