import TypeCoverage.Child
import TypeCoverage.FileTree.Probe
import TypeCoverage.Shell.Options
import TypeCoverage.Shell.Script
import TypeCoverage.Shell.Signal
import TypeCoverage.Text.Octets

/-!
# The state of a shell

A `World` is what processes share: the file tree, what has been written and what can be
read, signals that are on their way, and who holds which output for how long.  A `Machine`
is one process in it, at a moment of its own clock; most of its state is that of a shell.
Its numbered streams lead to sources of input, which are used up, and to sinks of output.

All texts of a shell hold bytes, one in each character; names in the file tree do not.
-/

namespace TypeCoverage.Shell

/-- Where output goes. -/
inductive Sink where
  | buffer (id : Nat)
  | file (name : List String)
  | nowhere
  deriving DecidableEq, Repr

/-- What a numbered stream leads to. -/
inductive Stream where
  | source (id : Nat)
  | sink (sink : Sink)
  /-- Input that has no end, of zeros. -/
  | zeros
  /-- A directory, from which nothing can be read. -/
  | directory
  deriving DecidableEq, Repr

/-- Bytes that a process has written at a moment. -/
structure Chunk where
  time : Nat
  pid : Nat
  bytes : List UInt8
  deriving Repr

/-- Bytes that can be read, with the moments from which on, and the moment at which nothing
can follow any more. -/
structure Source where
  chunks : List (Nat × List UInt8)
  closes : Nat
  /-- The size of the file that the bytes are those of. -/
  size? : Option Nat := none
  deriving Repr

/-- A change of the file tree by a process at a moment. -/
structure Change where
  time : Nat
  pid : Nat
  edit : Edit
  deriving Repr

/-- A process besides the first one: the process that has begun it, from when to when it
runs, and the buffers to which its streams lead. -/
structure Lifetime where
  pid : Nat
  parent : Nat
  begins : Nat
  ends : Nat
  buffers : List Nat
  /-- The signals that it does something about. -/
  handled : List Nat
  deriving Repr

/-- A signal that is sent to a process. -/
structure Sending where
  time : Nat
  pid : Nat
  signal : Nat
  deriving Repr

/-- What processes share. -/
structure World where
  tree : FileTree
  /-- What has been written to each buffer, the newest first. -/
  buffers : List (Nat × List Chunk)
  sources : List (Nat × Source)
  /-- The number of the next buffer, source or process. -/
  fresh : Nat
  /-- The changes of the tree, the newest first. -/
  changes : List Change := []
  /-- The changes of the tree that are still to come. -/
  ahead : List Change := []
  lifetimes : List Lifetime := []
  sendings : List Sending := []
  /-- How many commands have been run. -/
  commands : Nat := 0

/-- A variable: its value, if it has one, whether programs see it, and whether it stays as
it is. -/
structure Variable where
  value? : Option String
  isExported : Bool := false
  isReadOnly : Bool := false
  deriving Repr

/-- A command in the background, and how it ends if no signal is sent to it. -/
structure Job where
  number : Nat
  pid : Nat
  ends : Nat
  status : Nat
  signal? : Option Nat := none
  deriving Repr

/-- How a command has ended, if the next one does not follow. -/
inductive Flow where
  /-- The process ends. -/
  | exit
  /-- A command has failed in a way that ends the shell. -/
  | fail
  | killed (signal : Nat)
  | leave (loops : Nat)
  | again (loops : Nat)
  /-- The function or the sourced file ends. -/
  | back
  /-- The command does not end. -/
  | endless
  deriving DecidableEq, Repr

/-- A process, which is a shell for most of its time. -/
structure Machine extends World where
  pid : Nat
  /-- The session that the process belongs to. -/
  sid : Nat
  /-- The processes around this one, the nearest first. -/
  parents : List Nat := []
  clock : Nat := 0
  /-- The working directory, without links. -/
  cwd : List String
  /-- The working directory by the links through which it was reached. -/
  logical : List String
  streams : List (Nat × Stream)
  /-- The permissions that new files do not get. -/
  mask : Nat := 18
  /-- The number that the shell has for its scripts. -/
  shellPid : Nat
  zero : String
  parameters : List String := []
  variables_ : List (String × Variable) := []
  functions : List (String × Command) := []
  aliases : List (String × String) := []
  /-- The actions for signals by their numbers, with zero for the end of the shell. -/
  traps : List (Nat × String) := []
  /-- The letters of the options that are set. -/
  options : List Char := []
  status : Nat := 0
  /-- The line of the command that runs. -/
  line : Nat := 0
  /-- The line up to which the script has been read. -/
  reached : Nat := 0
  /-- The command of the shell that runs, or the file that is sourced. -/
  speaker? : Option String := none
  /-- What the variables of the function that runs were before, if one runs. -/
  locals? : Option (List (String × Option Variable)) := none
  /-- The options before the function that runs, if it has its own. -/
  savedOptions? : Option (List Char) := none
  /-- The loops around the command. -/
  loops : Nat := 0
  /-- The functions that run inside each other. -/
  depth : Nat := 0
  /-- The texts that run inside each other. -/
  nesting : Nat := 0
  jobs : List Job := []
  lastJob? : Option Nat := none
  /-- The status of the last script that was run for its output. -/
  captured : Nat := 0
  /-- The status before the action that runs. -/
  statusBefore? : Option Nat := none
  documents : List (Nat × Word) := []
  /-- The number of the next argument to be taken as options, and how many of the letters
before it have been taken. -/
  optionIndex : Nat := 1
  optionOffset : Nat := 0
  /-- The commands in the background that have been waited for. -/
  awaited : List Nat := []
  /-- The programs that have been found. -/
  known : List String := []
  /-- Whether something could not be written. -/
  lost : Bool := false

/-- A step of a process: it changes the state, and may end what it is a step of. -/
abbrev Action (α : Type) : Type := ExceptT Flow (StateM Machine) α

namespace Machine

/-- The number of the first process. -/
def firstPid : Nat := 4096

/-! ## Variables -/

/-- A variable. -/
def variable_ (m : Machine) (name : String) : Option Variable := m.variables_.lookup name

/-- The value of a variable. -/
def value? (m : Machine) (name : String) : Option String :=
  (m.variable_ name).bind (·.value?)

/-- Puts a variable in its place, or behind the others. -/
def putVariable (m : Machine) (name : String) (v : Variable) : Machine :=
  if (m.variable_ name).isSome then
    { m with variables_ := m.variables_.map fun (other, old) =>
        (other, if other = name then v else old) }
  else { m with variables_ := m.variables_ ++ [(name, v)] }

/-- Takes a variable away. -/
def removeVariable (m : Machine) (name : String) : Machine :=
  { m with variables_ := m.variables_.filter (·.1 ≠ name) }

/-- Puts a variable back as it was. -/
def restoreVariable (m : Machine) (name : String) : Option Variable → Machine
  | some v => m.putVariable name v
  | none => m.removeVariable name

/-- Whether an option is set. -/
def has (m : Machine) (option : Char) : Bool := m.options.contains option

/-- Gives a variable a value. -/
def assign (m : Machine) (name value : String) : Machine :=
  let old := (m.variable_ name).getD { value? := none }
  let m := m.putVariable name
    { old with value? := some value, isExported := old.isExported || m.has 'a' }
  if name = "OPTIND" then { m with optionIndex := max 1 ((count? value).getD 1), optionOffset := 0 }
  else if name = "PATH" then { m with known := [] }
  else m

/-- Whether a variable stays as it is. -/
def isReadOnly (m : Machine) (name : String) : Bool :=
  (m.variable_ name).any (·.isReadOnly)

/-- Lets programs see a variable. -/
def mark (m : Machine) (name : String) : Machine :=
  m.putVariable name { (m.variable_ name).getD { value? := none } with isExported := true }

/-- The place of a variable among others: variables are kept in a table of 39 places. -/
def placeOf (name : String) : Nat :=
  let codes := name.toList.map Char.toNat
  (codes.headD 0 * 16 + total codes) % 39

/-- The variables that programs see, in the order of their places. -/
def environment (m : Machine) : List (String × String) :=
  let seen := m.variables_.filterMap fun (name, v) =>
    if v.isExported then v.value?.map (name, ·) else none
  seen.mergeSort fun a b => placeOf a.1 ≤ placeOf b.1

/-- Where programs are looked up. -/
def searchPath (m : Machine) : String := (m.value? "PATH").getD ""

/-- The characters that separate fields. -/
def separators (m : Machine) : List Char := ((m.value? "IFS").getD " \t\n").toList

/-! ## The file tree -/

/-- Changes the tree, and remembers it. -/
def edit (m : Machine) (e : Edit) : Machine :=
  { m with tree := m.tree.edit e, changes := ⟨m.clock, m.pid, e⟩ :: m.changes }

/-- Lets time pass up to a moment, unless it is past: the changes of the tree that are due
are made. -/
def passTo (m : Machine) (moment : Nat) : Machine :=
  let clock := max m.clock moment
  let due := (m.ahead.filter (·.time ≤ clock)).mergeSort fun a b => a.time ≤ b.time
  { m with
    clock := clock
    tree := due.foldl (fun t c => t.edit c.edit) m.tree
    changes := due.reverse ++ m.changes
    ahead := m.ahead.filter (clock < ·.time) }

/-- Lets time pass. -/
def sleep (m : Machine) (duration : Nat) : Machine := m.passTo (m.clock + duration)

/-- The path that a text names in the working directory. -/
def path (m : Machine) (text : String) : Path :=
  let p := Path.ofText (Text.ofOctets text)
  if p.isAbsolute then p else ⟨.root, m.cwd ++ p.parts⟩

/-- The file in which a process finds its own number, and those of its parent, its group and
its session. -/
def ownRecord : String := "/proc/self/stat"

/-- What stands in the own record: the numbers behind a name and a state. -/
def recordText (m : Machine) : String :=
  let group := if m.sid = firstPid then firstPid else firstPid - 1
  String.intercalate " "
    ([toString m.pid, "(sh)", "R"]
      ++ [m.parents.headD (firstPid - 1), group, m.sid, 0].map toString) ++ "\n"

/-- What a text leads to. -/
def find (m : Machine) (text : String) : FileTree.Arrival :=
  if text = ownRecord then
    .found ["proc", "self", "stat"] (.file (Text.held m.recordText) false)
  else m.tree.walkText m.cwd (Text.ofOctets text)

/-- What a text leads to, if anything. -/
def nodeAt? (m : Machine) (text : String) : Option Node :=
  match m.find text with
  | .found _ node => some node
  | _ => none

/-- The name of what a text stands for, which may be a link. -/
def entryName (m : Machine) (text : String) : List String :=
  let p := m.path text
  m.tree.realName p.parent ++ [p.name]

/-- Whether a text names an entry, which may be a link that leads nowhere. -/
def isEntry (m : Machine) (text : String) : Bool :=
  (m.nodeAt? text).isSome
    || (!text.endsWith "/" && (m.path text).parts ≠ []
        && (m.tree.entry? (m.entryName text)).isSome)

/-- The names in a directory, in order. -/
def namesIn (m : Machine) (directory : List String) : List String :=
  let inside := m.tree.entries.filterMap fun (name, _) =>
    if name.dropLast = directory then name.getLast?.map Text.octets else none
  inside.eraseDups.mergeSort fun a b => decide (a ≤ b)

/-! ## Streams -/

/-- What a stream leads to. -/
def stream? (m : Machine) (number : Nat) : Option Stream := m.streams.lookup number

/-- Lets a stream lead somewhere. -/
def setStream (m : Machine) (number : Nat) (s : Stream) : Machine :=
  { m with streams := (number, s) :: m.streams.filter (·.1 ≠ number) }

/-- Closes a stream. -/
def closeStream (m : Machine) (number : Nat) : Machine :=
  { m with streams := m.streams.filter (·.1 ≠ number) }

/-- Writes bytes to a sink. -/
def emit (m : Machine) (sink : Sink) (bytes : List UInt8) : Machine :=
  if bytes.isEmpty then m
  else match sink with
    | .nowhere => m
    | .buffer id =>
      { m with buffers := m.buffers.map fun (other, chunks) =>
          if other = id then (other, ⟨m.clock, m.pid, bytes⟩ :: chunks) else (other, chunks) }
    | .file name => if (m.tree.entry? name).isSome then m.edit (.append name bytes) else m

/-- Writes bytes to a stream, if it leads to a sink. -/
def write? (m : Machine) (number : Nat) (bytes : List UInt8) : Option Machine :=
  match m.stream? number with
  | some (.sink sink) => some (m.emit sink bytes)
  | _ => none

/-- Writes bytes to the standard output, or remembers that they are lost. -/
def print (m : Machine) (bytes : List UInt8) : Machine :=
  if bytes.isEmpty then m else (m.write? 1 bytes).getD { m with lost := true }

/-- Writes bytes to the standard error. -/
def printError (m : Machine) (bytes : List UInt8) : Machine := (m.write? 2 bytes).getD m

/-- A new buffer. -/
def openBuffer (m : Machine) : Nat × Machine :=
  (m.fresh, { m with fresh := m.fresh + 1, buffers := (m.fresh, []) :: m.buffers })

/-- Removes a buffer. -/
def closeBuffer (m : Machine) (id : Nat) : Machine :=
  { m with buffers := m.buffers.filter (·.1 ≠ id) }

/-- A new source of input. -/
def openSource (m : Machine) (s : Source) : Nat × Machine :=
  (m.fresh, { m with fresh := m.fresh + 1, sources := (m.fresh, s) :: m.sources })

/-- Lets a stream lead to a new source. -/
def withSource (m : Machine) (number : Nat) (s : Source) : Machine :=
  let (id, m) := m.openSource s
  m.setStream number (.source id)

/-- Lets a stream lead to bytes that can be read at once. -/
def withBytes (m : Machine) (number : Nat) (bytes : List UInt8) : Machine :=
  m.withSource number { chunks := [(0, bytes)], closes := 0 }

/-- The source to which the standard input leads. -/
def source? (m : Machine) : Option (Nat × Source) :=
  match m.stream? 0 with
  | some (.source id) => (m.sources.lookup id).map (id, ·)
  | _ => none

/-- Leaves something else in a source. -/
def putSource (m : Machine) (id : Nat) (s : Source) : Machine :=
  { m with sources := m.sources.map fun (other, old) => (other, if other = id then s else old) }

/-- All of the input, which is awaited to its end. -/
def takeInput? (m : Machine) : Option (List UInt8 × Machine) :=
  m.source?.map fun (id, s) =>
    (s.chunks.flatMap (·.2), (m.putSource id { s with chunks := [] }).passTo s.closes)

/-- The first bytes of a source, the moment of the last one, and what follows. -/
def splitBytes (moment : Nat) : Nat → List (Nat × List UInt8) →
    List UInt8 × Nat × List (Nat × List UInt8)
  | _, [] => ([], moment, [])
  | count, (time, bytes) :: chunks =>
    if count = 0 then ([], moment, (time, bytes) :: chunks)
    else if bytes.length < count then
      let (more, moment, rest) := splitBytes (max moment time) (count - bytes.length) chunks
      (bytes ++ more, moment, rest)
    else (bytes.take count, max moment time, (time, bytes.drop count) :: chunks)

/-- The first bytes of the input; if they are fewer, it is awaited to its end. -/
def takeBytes? (m : Machine) (count : Nat) : Option (List UInt8 × Machine) :=
  m.source?.map fun (id, s) =>
    let (bytes, moment, rest) := splitBytes m.clock count s.chunks
    let moment := if bytes.length < count then max moment s.closes else moment
    (bytes, (m.putSource id { s with chunks := rest }).passTo moment)

/-- The bytes of a source up to a line break, with the moment of the last one, whether the
break is there, and what follows. -/
def splitLine (moment : Nat) (done : List UInt8) :
    List (Nat × List UInt8) → List UInt8 × Nat × Bool × List (Nat × List UInt8)
  | [] => (done, moment, false, [])
  | (time, bytes) :: chunks =>
    let line := bytes.takeWhile (· ≠ 10)
    let moment := if bytes.isEmpty then moment else max moment time
    if line.length < bytes.length then
      (done ++ line, moment, true, (time, bytes.drop (line.length + 1)) :: chunks)
    else splitLine moment (done ++ line) chunks

/-- A line of the input, with whether its line break is there. -/
def takeLine? (m : Machine) : Option (List UInt8 × Bool × Machine) :=
  m.source?.map fun (id, s) =>
    let (line, moment, isComplete, rest) := splitLine m.clock [] s.chunks
    let moment := if isComplete then moment else max moment s.closes
    (line, isComplete, (m.putSource id { s with chunks := rest }).passTo moment)

/-- Why nothing can be read from the standard input. -/
def inputFault (m : Machine) : String :=
  if m.stream? 0 = some .directory then "Is a directory" else "Bad file descriptor"

/-- The buffers to which the streams of a process lead. -/
def openBuffers (m : Machine) : List Nat :=
  m.streams.filterMap fun (_, s) =>
    match s with
    | .sink (.buffer id) => some id
    | _ => none

/-- What a buffer holds, in the order in which it was written. -/
def chunksOf (m : Machine) (id : Nat) : List Chunk :=
  (((m.buffers.lookup id).getD []).reverse).mergeSort fun a b => a.time ≤ b.time

/-- The bytes that a buffer holds. -/
def bytesOf (m : Machine) (id : Nat) : List UInt8 := (m.chunksOf id).flatMap (·.bytes)

/-- The moment at which the last process lets go of a buffer. -/
def releaseOf (m : Machine) (id : Nat) : Nat :=
  (m.lifetimes.filter (·.buffers.contains id)).foldl (fun t l => max t l.ends) m.clock

/-- What has been written to a buffer, to be read by another process. -/
def sourceOf (m : Machine) (id : Nat) : Source :=
  { chunks := (m.chunksOf id).map fun c => (c.time, c.bytes), closes := m.releaseOf id }

/-- The buffer of all standard output. -/
def outputBuffer : Nat := 0

/-- The buffer of all standard errors. -/
def errorBuffer : Nat := 1

/-! ## Processes -/

/-- A new process, which begins as this one: of the actions only those stay that let
signals pass, and it knows nothing of other commands in the background. -/
def fork (m : Machine) : Machine :=
  { m with
    pid := m.fresh
    parents := m.pid :: m.parents
    fresh := m.fresh + 1
    traps := m.traps.filter (·.2.isEmpty)
    jobs := [] }

/-- The record of a process that was begun at a moment and has come to its end. -/
def lifetime (m : Machine) (parent began : Nat) : Lifetime :=
  { pid := m.pid
    parent := parent
    begins := began
    ends := m.clock
    buffers := m.openBuffers
    handled := m.traps.map (·.1) }

/-- What processes share after a process has come to its end that another one had begun at a
moment. -/
def recorded (m : Machine) (parent began : Nat) : World :=
  { m.toWorld with lifetimes := m.lifetime parent began :: m.lifetimes }

/-- The process after it has waited for another one, which was begun at a moment. -/
def after (m inner : Machine) (began : Nat) : Machine :=
  { m with toWorld := inner.recorded m.pid began, clock := inner.clock }

/-- The process while others run beside it that have left behind a world: what they change
later than now is still to come. -/
def beside (m : Machine) (world : World) : Machine :=
  let new := (world.changes.take (world.changes.length - m.changes.length)).reverse
  let (now, later) := new.partition (·.time ≤ m.clock)
  { m with
    toWorld := { world with
      tree := if later.isEmpty then world.tree
        else now.foldl (fun t c => t.edit c.edit) m.tree
      changes := now.reverse ++ m.changes
      ahead := world.ahead ++ later } }

/-- The processes that come to nothing if some processes end at a moment: those that they
begin from then on, and those that these begin.  `depth` bounds how far that goes. -/
def doomed (lifetimes : List Lifetime) (moment : Nat) : Nat → List Nat → List Nat
  | 0, pids => pids
  | depth + 1, pids =>
    let new := lifetimes.filter fun l =>
      pids.contains l.parent && moment ≤ l.begins && !pids.contains l.pid
    if new.isEmpty then pids else doomed lifetimes moment depth (new.map (·.pid) ++ pids)

/-- What is left of a process that ends now, before its time. -/
def cut (m : Machine) (pid : Nat) : Machine :=
  let pids := doomed m.lifetimes m.clock m.lifetimes.length [pid]
  let stays (time pid : Nat) : Bool := !pids.contains pid || time < m.clock
  { m with
    buffers := m.buffers.map fun (id, chunks) => (id, chunks.filter fun c => stays c.time c.pid)
    ahead := m.ahead.filter fun c => stays c.time c.pid
    lifetimes := (m.lifetimes.filter fun l => stays l.begins l.pid || l.pid = pid).map fun l =>
      if l.pid = pid then { l with ends := min l.ends m.clock } else l }

/-- Whether a process runs that is not this one. -/
def isRunning (m : Machine) (pid : Nat) : Bool :=
  m.parents.contains pid || m.lifetimes.any fun l => l.pid = pid && m.clock < l.ends

/-- Whether a process that does not know of a signal ends by it. -/
def isDeadly (m : Machine) (pid signal : Nat) : Bool :=
  !Signal.isHarmless signal
    && (signal = Signal.kill
      || !m.lifetimes.any fun l => l.pid = pid && l.handled.contains signal)

/-- Sends a signal to a process; one in the background may end by it. -/
def send (m : Machine) (pid signal : Nat) : Machine :=
  let sent := { m with sendings := m.sendings ++ [⟨m.clock, pid, signal⟩] }
  if pid ≠ m.pid && !m.parents.contains pid && m.isDeadly pid signal then sent.cut pid else sent

/-- The end of a command in the background, with the signals that have been sent to it. -/
def fate (m : Machine) (j : Job) : Job :=
  let deadly := m.sendings.filter fun s =>
    s.pid = j.pid && s.time < j.ends && m.isDeadly s.pid s.signal
  match deadly.mergeSort fun a b => a.time ≤ b.time with
  | [] => j
  | s :: _ => { j with ends := s.time, status := 128 + s.signal, signal? := some s.signal }

/-- The signals that this process has to heed up to a moment, the earliest first. -/
def due (m : Machine) (moment : Nat) : List Sending :=
  (m.sendings.filter fun s => s.pid = m.pid && s.time ≤ moment).mergeSort
    fun a b => a.time ≤ b.time

/-- Whether a signal makes this process do something. -/
def heeds (m : Machine) (signal : Nat) : Bool :=
  match (if signal = Signal.kill then none else m.traps.lookup signal) with
  | some action => !action.isEmpty
  | none => !Signal.isHarmless signal

/-- Whether actions are set for signals or for the end of the shell. -/
def hasActions (m : Machine) : Bool := m.traps.any (!·.2.isEmpty)

end Machine

namespace Action

/-- Writes a text of bytes to the standard output. -/
def say (text : String) : Action Unit := modify (·.print (Text.held text))

/-- Writes a line to the standard error. -/
def complain (text : String) : Action Unit := modify (·.printError (Text.held (text ++ "\n")))

/-- Ends a command with a status. -/
def setStatus (status : Nat) : Action Unit := modify ({ · with status := status })

/-- Ends a command with the status that says whether something holds. -/
def answer (holds : Bool) : Action Unit := setStatus (if holds then 0 else 1)

/-- Writes a line to the standard error that begins with the script, the line in it and the
command of the shell that runs. -/
def warn (text : String) : Action Unit := do
  let m ← get
  let speaker := (m.speaker?.map (· ++ ": ")).getD ""
  complain (m.zero ++ ": " ++ toString m.line ++ ": " ++ speaker ++ text)

/-- Fails with a message, which ends the shell unless the command that runs lets it go
on. -/
def fail {α : Type} (text : String) : Action α := do
  warn text
  setStatus 2
  throw .fail

/-- Gives a variable a value, if it does not stay as it is. -/
def assign (name value : String) : Action Unit := do
  if (← get).isReadOnly name then fail (name ++ ": is read only")
  else if name = "OPTIND" && (count? value).isNone then fail ("Illegal number: " ++ value)
  else modify (·.assign name value)

/-- The number that a text writes, or a failure. -/
def number (text : String) : Action Nat :=
  match count? text with
  | some n => return n
  | none => fail ("Illegal number: " ++ text)

/-- The options of a command, or a failure. -/
def options (letters : String) (args : List String) : Action Options.Parsed :=
  match Options.read letters args with
  | .ok parsed => return parsed
  | .error fault => Action.fail fault.message

/-- Runs an action and answers with what it ends with. -/
def attempt {α : Type} (body : Action α) : Action (Except Flow α) :=
  fun m =>
    let (result, m) := body m
    (.ok result, m)

/-- Runs an action and whatever it ends with hands the state on to a change. -/
def finally_ {α : Type} (body : Action α) (change : Machine → Machine) : Action α :=
  fun m =>
    let (result, m) := body m
    (result, change m)

end Action

end TypeCoverage.Shell
