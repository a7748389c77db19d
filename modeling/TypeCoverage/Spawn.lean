import TypeCoverage.Call
import TypeCoverage.Child
import TypeCoverage.Launch

/-!
# Starting the checker

`Call.spawn` starts the program of a call in its working directory.  A working directory
that is none, a text that no system call can take and a program that cannot be run are
failures, in this order.  What a program does that has been started is up to it: `Programs`
says what comes of a launch.
-/

namespace TypeCoverage

/-- What programs do: the child that a launch becomes in a directory of a file tree, with an
environment, and perhaps in a session of its own. -/
abbrev Programs : Type :=
  Launch → FileTree → List String → List (String × String) → Bool → Child

/-- The environment that a process has if nothing else is said. -/
def usualEnvironment : List (String × String) :=
  [("PATH", Launch.usualSearchPath), ("HOME", "/root")]

/-- The number of bytes at which a single argument is too long. -/
def argumentLimit : Nat := 131072

/-- A variable that no environment can have. -/
def isBadVariable : String × String → Bool
  | (name, value) =>
    FileTree.holdsNull name || FileTree.holdsNull value || name.toList.contains '='

/-- The failure that an obstacle to running a program is. -/
def Obstacle.failure (executable : String) : Obstacle → Failure
  | .missing => .fault (.executableNotFound executable)
  | .notDirectory => .file .notDirectory executable
  | .denied => .file .permissionDenied executable
  | .nameTooLong => .file .nameTooLong executable
  | .tooManyLinks => .file .tooManyLinks executable
  | .noFormat => .file .noFormat executable

namespace Call

/-- The program of a call with its arguments. -/
def command (c : Call) : List String := c.executable :: c.args

/-- The name of the directory in which a call runs. -/
def directory (t : FileTree) (c : Call) : Except Failure (List String) :=
  match c.cwd with
  | none => .ok t.here
  | some p =>
    match t.probe p with
    | .error why => .error why
    | .ok (some .directory) => .ok (t.realName p)
    | .ok _ => .error (.fault (.workingDirectory p))

/-- The launch that the command of a call stands for. -/
def launch (t : FileTree) (directory : List String) (environment : List (String × String))
    (c : Call) : Except Failure Launch :=
  let searchPath := (environment.lookup "PATH").getD Launch.spareSearchPath
  if c.command.any FileTree.holdsNull || environment.any isBadVariable then .error (.badValue none)
  else if c.command.any (argumentLimit ≤ ·.utf8ByteSize) then
    .error (.file .argumentsTooLong c.executable)
  else
    let find (text : String) : FileTree.Arrival := t.walkText directory (Text.ofOctets text)
    (Launch.ofNameWithFormat find (Text.octets searchPath) (Text.octets c.executable)
      (c.args.map Text.octets)).mapError fun why => why.failure c.executable

/-- The child that a call starts. -/
def spawn (programs : Programs) (t : FileTree) (environment : List (String × String))
    (c : Call) : Except Failure Child := do
  let directory ← c.directory t
  let launch ← c.launch t directory environment
  return programs launch t directory environment c.detached

end Call

end TypeCoverage
