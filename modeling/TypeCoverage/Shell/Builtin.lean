import TypeCoverage.Shell.Builtin.Directory
import TypeCoverage.Shell.Builtin.Input
import TypeCoverage.Shell.Builtin.Jobs
import TypeCoverage.Shell.Builtin.Names
import TypeCoverage.Shell.Builtin.Parameters
import TypeCoverage.Shell.Condition
import TypeCoverage.Shell.Format

/-!
# Commands that are part of the shell

A command that is part of the shell and runs nothing else looks at the state of the shell
or changes it: it is an action on its arguments and sets the status.  `named?` knows all of
them by their names.
-/

namespace TypeCoverage.Shell.Builtin

open Decimal
open Action (say setStatus answer warn fail number options)

/-! ## Writing -/

/-- Writes its arguments, in which escapes are read; `-n` leaves out the line break. -/
def echo (args : List String) : Action Unit := do
  let isBare := args.head? = some "-n"
  let words := if isBare then args.drop 1 else args
  let (text, ended) := Format.unescaped false (String.intercalate " " words)
  say (if isBare || ended then text else text ++ "\n")
  setStatus 0

/-- Writes its arguments by a format. -/
def printf (args : List String) : Action Unit := do
  match (← options "" args).2 with
  | [] => fail "usage: printf format [arg ...]"
  | format :: args =>
    let printed := Format.run .shell format args
    printed.warnings.forM warn
    match printed.fault? with
    | none =>
      say printed.output
      answer printed.warnings.isEmpty
    | some text =>
      warn text
      say printed.output
      setStatus 2
      throw .fail

/-- Tells by its status whether a condition holds. -/
def test (isBracket : Bool) (args : List String) : Action Unit := do
  if isBracket && args.getLast? ≠ some "]" then fail "missing ]"
  else
    match Condition.read (← get) (if isBracket then args.dropLast else args) with
    | .ok holds => answer holds
    | .error text => fail text

/-! ## Masks, limits and times -/

/-- Three letters for the permissions that are not masked. -/
def permissionText (mask : Nat) : String :=
  (if mask / 4 % 2 = 0 then "r" else "") ++ (if mask / 2 % 2 = 0 then "w" else "")
    ++ (if mask % 2 = 0 then "x" else "")

/-- The bits of permissions for those whom letters name. -/
def permissionBits (who what : List Char) (mode : Nat) : Nat :=
  let bits := what.foldl (fun n c => match c with
    | 'r' => n ||| 4
    | 'w' => n ||| 2
    | 'x' => n ||| 1
    | 'u' => n ||| (mode / 64 % 8)
    | 'g' => n ||| (mode / 8 % 8)
    | 'o' => n ||| (mode % 8)
    | _ => n) 0
  let all := who.isEmpty || who.contains 'a'
  (if all || who.contains 'u' then bits * 64 else 0)
    + (if all || who.contains 'g' then bits * 8 else 0)
    + (if all || who.contains 'o' then bits else 0)

/-- The permissions after a clause has changed them, if it is one. -/
def applyClause? (mode : Nat) (clause : List Char) : Option Nat :=
  let who := clause.takeWhile fun c => "ugoa".toList.contains c
  match clause.drop who.length with
  | sign :: what =>
    if !what.all fun c => "rwxXstugo".toList.contains c then none
    else
      let bits := permissionBits who what mode
      let covered := permissionBits who ['r', 'w', 'x'] mode
      match sign with
      | '+' => some (mode ||| bits)
      | '-' => some (mode - (mode &&& bits))
      | '=' => some (mode - (mode &&& covered) ||| bits)
      | _ => none
  | [] => none

/-- All permissions. -/
def allPermissions : Nat := 511

/-- Sets or writes the permissions that new files do not get. -/
def umask (args : List String) : Action Unit := do
  let (letters, operands) ← options "S" args
  let mask := (← get).mask
  match operands with
  | [] =>
    if letters.isEmpty then
      let ds := Nat.toDigits 8 mask
      say (String.ofList (List.replicate (4 - ds.length) '0' ++ ds ++ ['\n']))
    else
      say ("u=" ++ permissionText (mask / 64) ++ ",g=" ++ permissionText (mask / 8) ++ ",o="
        ++ permissionText mask ++ "\n")
  | text :: _ =>
    let cs := text.toList
    if cs.head?.any isDigit then
      if cs.all fun c => (Format.octal? c).isSome then
        modify fun m => { m with mask := (readDigitsIn 8 cs).1 &&& allPermissions }
      else fail ("Illegal number: " ++ text)
    else
      let clauses := (text.splitOn ",").map String.toList
      match clauses.foldlM applyClause? (allPermissions - mask) with
      | some mode => modify fun m => { m with mask := allPermissions - mode }
      | none => fail ("Illegal mode: " ++ text)
  setStatus 0

/-- Writes a limit, of which there are none, or sets one, which is never reached. -/
def ulimit (args : List String) : Action Unit := do
  let (_, operands) ← options "HSatfdscmlpnvwr" args
  if operands.isEmpty then say "unlimited\n"
  setStatus 0

/-- Writes the times of the shell, which takes none. -/
def times (_ : List String) : Action Unit := do
  say "0m0.000000s 0m0.000000s\n0m0.000000s 0m0.000000s\n"
  setStatus 0

/-! ## Leaving -/

/-- Ends the shell. -/
def exit (args : List String) : Action Unit := do
  match args with
  | [] =>
    let m ← get
    setStatus (m.statusBefore?.getD m.status)
  | text :: _ => setStatus (← number text)
  throw .exit

/-- Ends a function or a sourced file. -/
def return_ (args : List String) : Action Unit := do
  match args with
  | [] => pure ()
  | text :: _ => setStatus (← number text)
  throw .back

/-- Leaves loops, or goes on with their next round. -/
def leave (goesOn : Bool) (args : List String) : Action Unit := do
  let n ← match args with
    | [] => pure 1
    | text :: _ => do
      let n ← number text
      if n = 0 then fail ("Illegal number: " ++ text) else pure n
  let n := min n (← get).loops
  setStatus 0
  if n = 0 then return else if goesOn then throw (.again n) else throw (.leave n)

/-- The commands of this module by their names. -/
def named? : String → Option (List String → Action Unit)
  | ":" => some fun _ => setStatus 0
  | "true" => some fun _ => setStatus 0
  | "false" => some fun _ => setStatus 1
  | "echo" => some echo
  | "printf" => some printf
  | "test" => some (test false)
  | "[" => some (test true)
  | "cd" => some cd
  | "chdir" => some cd
  | "pwd" => some pwd
  | "export" => some (declare false)
  | "readonly" => some (declare true)
  | "local" => some localize
  | "unset" => some unset
  | "set" => some setAll
  | "shift" => some shift
  | "getopts" => some getopts
  | "trap" => some trap
  | "kill" => some kill
  | "jobs" => some jobs
  | "fg" => some resume
  | "bg" => some resume
  | "wait" => some wait
  | "umask" => some umask
  | "ulimit" => some ulimit
  | "times" => some times
  | "alias" => some alias_
  | "unalias" => some unalias
  | "type" => some type_
  | "hash" => some hash
  | "exit" => some exit
  | "return" => some return_
  | "break" => some (leave false)
  | "continue" => some (leave true)
  | "read" => some read
  | _ => none

end TypeCoverage.Shell.Builtin
