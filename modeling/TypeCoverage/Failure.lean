import TypeCoverage.Binary64
import TypeCoverage.FileTree.Path
import TypeCoverage.Report.Reader
import TypeCoverage.Text.Quoted

/-!
# Failures

A `Fault` is a failure of the library itself, by its cause.  A `Failure` is a fault or
one of the failures that come from outside: of the file system, of a caller's own code,
of a text that is no number, of limits of the machine, or the cancellation of a task.
`Fault.message` and `Failure.message?` give the words.
-/

namespace TypeCoverage

open Decimal

/-- Why settings were refused. -/
inductive ConfigFault where
  /-- A settings file is not well-formed. -/
  | unreadable (path : String)
  /-- The section of the settings in a project file is not a table. -/
  | notTable (path : String)
  /-- A variable of the environment that should hold a truth word holds another text. -/
  | notTruthWord (name : String) (raw : String)
  /-- The layers together are not valid settings. -/
  | invalid (findings : List Finding)
  /-- A new value, as shown, does not fit its setting. -/
  | invalidValue (setting : String) (shown : String) (findings : List Finding)
  /-- There is no such setting. -/
  | unknownSetting (name : String)
  /-- A refusal in words of its own. -/
  | stated (text : String)
  deriving DecidableEq, Repr

/-- The words for refused settings. -/
def ConfigFault.message : ConfigFault → String
  | .unreadable path => "failed to parse " ++ path
  | .notTable path => "[tool.flowcov] in " ++ path ++ " must be a table"
  | .notTruthWord name raw => name ++ " must be a boolean, got " ++ Text.quoted raw
  | .invalid findings => "invalid flowcov settings: " ++ findingCount findings "Settings"
  | .invalidValue setting shown _ => "invalid value for " ++ setting ++ ": " ++ shown
  | .unknownSetting name => "unknown setting '" ++ name ++ "'"
  | .stated text => text

/-- The findings behind refused settings. -/
def ConfigFault.findings : ConfigFault → List Finding
  | .invalid findings => findings
  | .invalidValue _ _ findings => findings
  | _ => []

/-- Why no report could be read from what the checker wrote. -/
inductive ReportFault where
  | refused (why : Report.Refusal)
  | stated (text : String)
  deriving DecidableEq, Repr

/-- The words for a refused report. -/
def ReportFault.message : ReportFault → String
  | .refused why => why.message
  | .stated text => text

/-- The findings behind a refused report. -/
def ReportFault.findings : ReportFault → List Finding
  | .refused why => why.findings
  | .stated _ => []

/-- The words with which a lint reports that there is no checker to run. -/
def executableMissingMessage : String := "Unable to find `flow` executable."

/-- A failure of the library itself. -/
inductive Fault where
  | config (why : ConfigFault)
  | report (why : ReportFault)
  | lint (text : String)
  | executableNotFound (executable : String)
  | workingDirectory (path : Path)
  | invocation (command : List String) (status : Option Int) (stdout stderr : Option String)
  | timeout (command : List String) (seconds : Binary64)
  | general (text : String)
  deriving DecidableEq, Repr

/-- The failed command as its messages name it. -/
def commandName (command : List String) : String :=
  "Command '" ++ command.headD "" ++ "'"

/-- The words for a failure of the library.  A failed invocation speaks through its
standard error, if there is anything in it. -/
def Fault.message : Fault → String
  | .config why => why.message
  | .report why => why.message
  | .lint text => text
  | .executableNotFound executable => "Executable '" ++ executable ++ "' was not found"
  | .workingDirectory path => "Working directory '" ++ path.text ++ "' does not exist"
  | .invocation command status _ stderr =>
    let said := Text.strip (stderr.getD "")
    if said.isEmpty then
      commandName command ++ " exited with status " ++ (match status with
        | some n => signedNumeral n
        | none => "None")
    else said
  | .timeout command seconds => commandName command ++ " timed out after " ++ seconds.tenths ++ "s"
  | .general text => text

/-- The findings behind a failure of the library. -/
def Fault.findings : Fault → List Finding
  | .config why => why.findings
  | .report why => why.findings
  | _ => []

/-- The failures of the file system that are told apart, with the error number. -/
inductive FileFault where
  | permissionDenied
  | notDirectory
  | nameTooLong
  | tooManyLinks
  | argumentsTooLong
  /-- A file is no program that can be run. -/
  | noFormat
  deriving DecidableEq, Repr

/-- The error number and the text of a failure of the file system. -/
def FileFault.text : FileFault → String
  | .permissionDenied => "[Errno 13] Permission denied"
  | .notDirectory => "[Errno 20] Not a directory"
  | .nameTooLong => "[Errno 36] File name too long"
  | .tooManyLinks => "[Errno 40] Too many levels of symbolic links"
  | .argumentsTooLong => "[Errno 7] Argument list too long"
  | .noFormat => "[Errno 8] Exec format error"

/-- A failure of the library or one that comes from outside. -/
inductive Failure where
  | fault (why : Fault)
  | file (why : FileFault) (path : String)
  | system (text : String)
  | noAttribute (owner name : String)
  | runtime (text : String)
  | missingKey (key : String)
  /-- An argument that cannot be used, with the words if the one who raised it gave any. -/
  | badValue (text? : Option String)
  /-- A setting that does not fit where it is assigned. -/
  | invalid (findings : List Finding)
  | undecodable
  /-- A decimal number is too large. -/
  | overflow
  /-- A text is nested too deeply to be read. -/
  | tooDeep
  | cancelled
  deriving DecidableEq, Repr

/-- The words for a failure, where it has any. -/
def Failure.message? : Failure → Option String
  | .fault why => some why.message
  | .file why path => some (why.text ++ ": " ++ Text.quoted path)
  | .system text => some text
  | .noAttribute owner name =>
    some ("'" ++ owner ++ "' object has no attribute '" ++ name ++ "'")
  | .runtime text => some text
  | .missingKey key => some (Text.quoted key)
  | .badValue text? => text?
  | .invalid _ => none
  | .undecodable => none
  | .overflow => none
  | .tooDeep => none
  | .cancelled => none

/-- The findings behind a failure. -/
def Failure.findings : Failure → List Finding
  | .fault why => why.findings
  | .invalid findings => findings
  | _ => []

end TypeCoverage
