import TypeCoverage.Shell.Run
import TypeCoverage.Spawn

/-!
# From a launch to a child process

`Shell.programs` runs a launched program in a directory of a file tree, with an environment
and without any input, and says what comes of it: a `Child`.
-/

namespace TypeCoverage.Shell

/-- The microseconds that it takes to start a program. -/
def startTime : Nat := 1000

/-- The machine on which a program is started; `detached` tells that it has a session of
its own. -/
def Machine.initial (t : FileTree) (directory : List String)
    (environment : List (String × String)) (detached : Bool) : Machine :=
  { tree := t
    buffers := [(Machine.outputBuffer, []), (Machine.errorBuffer, [])]
    sources := [(0, { chunks := [], closes := 0 })]
    fresh := Machine.firstPid + 1
    pid := Machine.firstPid
    sid := if detached then Machine.firstPid else Machine.firstPid - 1
    cwd := directory
    logical := directory
    streams :=
      [(0, .source 0), (1, .sink (.buffer Machine.outputBuffer)),
       (2, .sink (.buffer Machine.errorBuffer))]
    shellPid := Machine.firstPid
    zero := "sh"
    variables_ := environment.map fun (name, value) =>
      (Text.octets name, { value? := some (Text.octets value), isExported := true }) }

/-- The processes that hold the output of the first one. -/
def Machine.holders (m : Machine) : List Lifetime :=
  m.lifetimes.filter fun l =>
    l.begins < l.ends
      && (l.buffers.contains Machine.outputBuffer || l.buffers.contains Machine.errorBuffer)

/-- What the first process has become that has come to its end. -/
def Machine.child (m : Machine) (flow : Flow) : Child :=
  let status : Int := match flow with
    | .killed n => -(n : Int)
    | _ => (m.status % 256 : Nat)
  let changes := (m.changes.reverse ++ m.ahead).mergeSort fun a b => a.time ≤ b.time
  { exit := ⟨status, m.bytesOf Machine.outputBuffer, m.bytesOf Machine.errorBuffer⟩
    duration := (m.holders.map (·.ends)).foldl max m.clock + startTime
    held := m.holders.map fun l => (l.begins, l.ends)
    edits := changes.map fun c => (c.time, c.edit) }

/-- What the programs of the system do, the shell among them. -/
def programs : Programs := fun launch t directory environment detached =>
  let (flow, m) :=
    (Machine.initial t directory environment detached).apart (runLaunch scriptFuel launch)
  m.child flow

end TypeCoverage.Shell
