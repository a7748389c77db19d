import TypeCoverage.Shell.Builtin.Directory
import TypeCoverage.Shell.Program

/-!
# Lives of processes

A process runs an action on a machine of its own, which begins as that of the process that
forks it, as a shell or as a program.  `Machine.apart` runs the action to its end, and
`Ended` says how it has come to that; `await` is what the process does that waits for it.
A process that does not end counts as one that ends long after all others.
-/

namespace TypeCoverage.Shell

open Decimal
open Action (complain setStatus)

/-- The microseconds after which a script counts as one that does not end. -/
def timeLimit : Nat := tenTo 10

/-- The moment at which a process that does not end would do so. -/
def endlessTime : Nat := tenTo 15

/-- How many commands a script may run; one that runs more counts as one that does not end. -/
def commandLimit : Nat := 250000

/-- As how many commands a process counts that does not end. -/
def endlessCommands : Nat := 25000

/-- How many processes may wait for each other. -/
def processLimit : Nat := 300

/-- How a process has come to its end. -/
structure Ended where
  flow : Flow
  pid : Nat
  clock : Nat
  status : Nat

namespace Machine

/-- The machine of a process after it has run an action to its end. -/
def apart (m : Machine) (body : Action Unit) : Flow × Machine :=
  if processLimit < m.parents.length then (.endless, m.passTo endlessTime)
  else
    let (result, inner) := body m
    match result with
    | .error .endless =>
      let inner := { inner with commands := m.commands + endlessCommands }
      match (inner.due endlessTime).find? fun s => inner.heeds s.signal with
      | some s => (.killed s.signal, inner.passTo s.time)
      | none => (.endless, inner.passTo endlessTime)
    | .error (.killed n) => (.killed n, inner)
    | _ => (if endlessTime ≤ inner.clock then .endless else .exit, inner)

/-- The status of a process that has come to its end. -/
def endStatus (m : Machine) : Flow → Nat
  | .killed n => 128 + n
  | _ => m.status % 256

/-- How a process has come to its end. -/
def ended (m : Machine) (flow : Flow) : Ended := ⟨flow, m.pid, m.clock, m.endStatus flow⟩

/-- A new process in the background: it reads nothing and lets signals from a terminal
pass. -/
def background (m : Machine) : Machine :=
  let m := m.fork.withBytes 0 []
  { m with traps := (2, "") :: (3, "") :: m.traps.filter fun (n, _) => n ≠ 2 && n ≠ 3 }

/-- The machine that knows of a command in the background.  It gets the first number that is
free, or that of one which has been waited for and is forgotten. -/
def withJob (m : Machine) (e : Ended) : Machine :=
  let isKept (number : Nat) : Bool :=
    m.jobs.any fun j =>
      j.number = number && (m.clock < (m.fate j).ends || !m.awaited.contains j.pid)
  let numbers := (List.range (m.jobs.length + 1)).map (· + 1)
  let number := (numbers.find? (!isKept ·)).getD 1
  let signal? := match e.flow with
    | .killed n => some n
    | _ => none
  { m with
    jobs := m.jobs.filter (·.number ≠ number) ++ [⟨number, e.pid, e.clock, e.status, signal?⟩]
    lastJob? := some e.pid
    status := 0 }

/-- The variables of a shell at its start, with those of its environment. -/
def firstVariables (m : Machine) (environment : List (String × String)) :
    List (String × Variable) :=
  let own : List (String × Variable) :=
    [("IFS", " \t\n"), ("PATH", Launch.usualSearchPath), ("PS1", "# "), ("PS2", "> "),
     ("PS4", "+ "), ("OPTIND", "1"), ("PPID", numeral (m.parents.headD (firstPid - 1)))].map
      fun (name, value) => (name, { value? := some value })
  let given := environment.filter fun (name, _) =>
    isName name && !(["IFS", "OPTIND", "PPID"].contains name)
  given.foldl (fun vs (name, value) =>
    let v : Variable := { value? := some value, isExported := true }
    if vs.any (·.1 = name) then vs.map fun (other, old) => (other, if other = name then v else old)
    else vs ++ [(name, v)]) own

/-- The working directory as a shell names it: as the environment says, if that is the same
directory. -/
def namedDirectory (m : Machine) (environment : List (String × String)) : List String :=
  match environment.lookup "PWD" with
  | none => m.cwd
  | some text =>
    let p := Path.ofText (Text.ofOctets text)
    match p.isAbsolute, m.find text with
    | true, .found name .directory => if name = m.cwd then p.parts else m.cwd
    | _, _ => m.cwd

/-- The machine of a process that becomes a shell. -/
def asShell (m : Machine) (zero : String) : Machine :=
  let environment := m.environment
  let m' : Machine :=
    { toWorld := m.toWorld
      pid := m.pid
      sid := m.sid
      parents := m.parents
      clock := m.clock
      cwd := m.cwd
      logical := m.namedDirectory environment
      streams := m.streams
      mask := m.mask
      shellPid := m.pid
      zero := zero
      variables_ := m.firstVariables environment
      traps := m.traps.filter (·.2.isEmpty) }
  (m'.assign "PWD" (Builtin.directoryText m'.logical)).mark "PWD"

/-- The machine of a process that becomes a program: of the actions only those stay that let
signals pass. -/
def asProgram (m : Machine) : Machine :=
  { m with traps := m.traps.filter (·.2.isEmpty), lost := false }

/-- Gives back the variables and options that were local to a function. -/
def restoreLocals (m : Machine) : Machine :=
  let m := (m.locals?.getD []).foldl (fun m (name, old?) => m.restoreVariable name old?) m
  { m with options := m.savedOptions?.getD m.options }

end Machine

/-- Takes over how a process has come to its end that was waited for. -/
def conclude (e : Ended) : Action Unit := do
  match e.flow with
  | .endless => throw .endless
  | .killed n =>
    if !Signal.isQuiet n then complain (Signal.text n)
    setStatus e.status
  | _ => setStatus e.status

/-- Waits for a process that was begun at a moment. -/
def await (began : Nat) (end_ : Flow × Machine) : Action Unit := do
  let (flow, inner) := end_
  modify (·.after inner began)
  conclude (inner.ended flow)

end TypeCoverage.Shell
