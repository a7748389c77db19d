import TypeCoverage.Shell.Builtin.Variables

/-!
# Commands for signals and for what runs in the background

`trap` says what to do at signals, and `kill` sends them.  `jobs` tells what runs in the
background, and `wait` lets time pass until it has ended or a signal comes.
-/

namespace TypeCoverage.Shell.Builtin

open Decimal
open Action (say complain setStatus answer warn fail number options)

/-! ## Signals -/

/-- Says what to do at signals: an empty action lets them pass, a dash restores what is
usual.  Without any action it is restored, too. -/
def trap (args : List String) : Action Unit := do
  let (_, operands) ← options "" args
  let m ← get
  let isNumber (text : String) : Bool := !text.isEmpty && text.toList.all isDigit
  let (action?, names) : Option String × List String := match operands with
    | [name] => (none, [name])
    | first :: names => if isNumber first then (none, first :: names) else (some first, names)
    | [] => (none, [])
  if operands.isEmpty then
    say (String.join ((List.range Signal.count).filterMap fun n =>
      (m.traps.lookup n).map fun action =>
        "trap -- " ++ quote action ++ " " ++ Signal.name n ++ "\n"))
    setStatus 0
  else go (action?.bind fun action => if action = "-" then none else some action) names
where
  /-- Sets an action for each of some signals, up to one that is none. -/
  go (action? : Option String) : List String → Action Unit
    | [] => setStatus 0
    | name :: names => do
      match Signal.number? 0 name with
      | none =>
        complain ("trap: " ++ name ++ ": bad trap")
        setStatus 1
      | some n =>
        modify fun m =>
          { m with traps := (action?.toList.map (n, ·)) ++ m.traps.filter (·.1 ≠ n) }
        go action? names

/-- How signals are sent. -/
def killUsage : String :=
  "Usage: kill [-s sigspec | -signum | -sigspec] [pid | job]... or\nkill -l [exitstatus]"

/-- The command in the background that a text names, or a failure. -/
def jobOf (text : String) : Action Job := do
  let jobs := (← get).jobs.reverse
  let none_ : Action Job := fail ("No such job: " ++ text)
  let current? : Nat → Action Job := fun n =>
    match jobs[n]? with
    | some j => return j
    | none => fail (if n = 0 then "No current job" else "No previous job")
  match text.toList.drop 1 with
  | [] => current? 0
  | ['%'] => current? 0
  | ['+'] => current? 0
  | ['-'] => current? 1
  | digits =>
    match jobs.find? fun j => numeral j.number = String.ofList digits with
    | some j => return j
    | none => none_

/-- Sends a signal to the process, or the processes, that a text names.  The answer tells
whether there are any. -/
def sendTo (signal : Nat) (text : String) : Action Bool := do
  let everyone : Action Bool := do
    modify fun m =>
      let others := m.parents.filter (Machine.firstPid ≤ ·)
        ++ (m.lifetimes.filter fun l => m.clock < l.ends).map (·.pid)
      (m.pid :: others).eraseDups.foldl (fun m pid => m.send pid signal) m
    return true
  if text.startsWith "%" then
    let _ ← jobOf text
    return false
  else if text.startsWith "-" then
    let n ← number (text.drop 1).toString
    if n = (← get).sid then everyone else return false
  else
    let n ← number text
    let m ← get
    if n = 0 then everyone
    else if n = m.pid || m.isRunning n then
      if signal ≠ 0 then modify (·.send n signal)
      return true
    else return false

/-- Sends a signal to processes, or writes the names of the signals. -/
def kill (args : List String) : Action Unit := do
  let first := args.headD ""
  let direct? := if first.startsWith "-" then Signal.number? 1 (first.drop 1).toString else none
  let (isList, signal?, operands) ← match direct? with
    | some n => pure (false, some n, args.drop 1)
    | none => do
      let (letters, operands) ← if first.startsWith "-" then options "ls:" args
        else pure ([], args)
      let signal? ← match Options.value? letters 's' with
        | none => pure none
        | some name =>
          match Signal.number? 1 name with
          | some n => pure (some n)
          | none => fail ("invalid signal number or name: " ++ name)
      pure (Options.has letters 'l', signal?, operands)
  if args.isEmpty then fail killUsage
  else if isList then
    if signal?.isSome then fail killUsage
    match operands with
    | [] =>
      say (String.join ("0\n" :: Signal.names.map (· ++ "\n")))
      setStatus 0
    | text :: _ =>
      let n ← number text
      let n := if 128 < n then n - 128 else n
      if 0 < n && n < Signal.count then
        say (Signal.name n ++ "\n")
        setStatus 0
      else fail ("invalid signal number or exit status: " ++ text)
  else if operands.isEmpty then fail killUsage
  else
    let failed ← operands.foldlM (fun failed text => do
      if ← sendTo (signal?.getD Signal.terminate) text then return failed
      else
        warn "No such process\n"
        return true) false
    answer !failed

/-! ## Commands in the background -/

/-- The state of a command in the background. -/
def stateOf (m : Machine) (j : Job) : String :=
  let j := m.fate j
  if m.clock < j.ends then "Running"
  else match j.signal? with
    | some n => Signal.text n
    | none => if j.status % 256 = 0 then "Done" else "Done(" ++ numeral (j.status % 256) ++ ")"

/-- The width of a line that tells of a command in the background. -/
def jobWidth : Nat := 33

/-- Tells of commands in the background; those that have ended are forgotten. -/
def showJobs : List Job → Action Unit
  | [] => return
  | j :: js => do
    let m ← get
    let mark := match m.jobs.reverse.findIdx? (·.number = j.number) with
      | some 0 => "+"
      | some 1 => "-"
      | _ => " "
    let text := "[" ++ numeral j.number ++ "] " ++ mark ++ " " ++ stateOf m j
    say (text ++ String.ofList (List.replicate (jobWidth - text.length) ' ') ++ "\n")
    if (m.fate j).ends ≤ m.clock then
      modify fun m => { m with jobs := m.jobs.filter (·.number ≠ j.number) }
    showJobs js

/-- Tells of the commands in the background, the newest first. -/
def jobs (args : List String) : Action Unit := do
  let (_, operands) ← options "lp" args
  if operands.isEmpty then showJobs (← get).jobs.reverse
  else operands.forM fun text => do showJobs [← jobOf text]
  setStatus 0

/-- Lets time pass up to a moment, but not past a signal before it that this process heeds.
The answer is that signal. -/
def awaitMoment (moment : Nat) : Action (Option Nat) := do
  let m ← get
  match (m.due moment).find? fun s => s.time < moment && m.heeds s.signal with
  | some s =>
    modify (·.passTo s.time)
    return some s.signal
  | none =>
    modify (·.passTo moment)
    return none

/-- Waits for commands in the background, one after another; `status` is the one so far. -/
def waitFor (status : Nat) : List String → Action Unit
  | [] => setStatus status
  | text :: texts => do
    let job? ← if text.startsWith "%" then do pure (some (← jobOf text))
      else do
        let n ← number text
        pure ((← get).jobs.find? (·.pid = n))
    match job? with
    | none => waitFor status texts
    | some j =>
      let m ← get
      let fate := m.fate j
      match ← awaitMoment fate.ends with
      | some signal => setStatus (128 + signal)
      | none =>
        match fate.signal? with
        | some signal =>
          if m.clock ≤ fate.ends && !Signal.isQuiet signal && !m.awaited.contains j.pid then
            complain (Signal.text signal)
        | none => pure ()
        modify fun m => { m with awaited := j.pid :: m.awaited }
        waitFor (fate.status % 256) texts

/-- Waits for commands in the background. -/
def wait (args : List String) : Action Unit := do
  let (_, operands) ← options "" args
  if operands.isEmpty then
    let m ← get
    let ends := (m.jobs.map fun j => (m.fate j).ends).foldl max m.clock
    match ← awaitMoment ends with
    | some signal => setStatus (128 + signal)
    | none =>
      modify fun m => { m with awaited := m.jobs.map (·.pid) ++ m.awaited }
      setStatus 0
  else waitFor 127 operands

/-- Would let a command go on, but no command can be stopped here. -/
def resume (args : List String) : Action Unit := do
  let (_, operands) ← options "" args
  let j ← jobOf (operands.headD "%")
  fail ("job " ++ numeral j.number ++ " not created under job control")

end TypeCoverage.Shell.Builtin
