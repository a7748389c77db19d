import TypeCoverage.Shell.Builtin
import TypeCoverage.Shell.Tool.Files
import TypeCoverage.Shell.Tool.Text

/-!
# The programs of a system by name

`Tool.named?` knows the programs that run nothing else.  `Tool.names` lists all programs
that a system has besides the shell.
-/

namespace TypeCoverage.Shell.Tool

open Decimal
open Action (say setStatus answer)

/-- A duration in microseconds; an infinite one has none. -/
def duration (zero s : String) : Action (Option Nat) := do
  let cs := s.toList
  let (unit, number) := match cs.getLast? with
    | some 's' => (1, cs.dropLast)
    | some 'm' => (60, cs.dropLast)
    | some 'h' => (3600, cs.dropLast)
    | some 'd' => (86400, cs.dropLast)
    | _ => (1, cs)
  match Format.realOf (String.ofList number) with
  | (.finite negative mantissa exponent, .nothing) =>
    if number.isEmpty || (negative && mantissa ≠ 0) then refuse
    else
      return some (mantissa * unit * 1000000 * twoTo exponent.toNat / twoTo (-exponent).toNat)
  | (.infinite false, _) => return none
  | _ => refuse
where
  /-- Tells that a text is no duration. -/
  refuse : Action (Option Nat) := do
    mishap zero ("invalid time interval '" ++ s ++ "'")
    return some 0

/-- Lets time pass. -/
def sleep : Tool := fun zero args => do
  let (_, operands) ← options zero 1 "" [] args
  if operands.isEmpty then misuse zero "missing operand" 1
  setStatus 0
  let durations ← operands.mapM (duration zero)
  if (← get).status ≠ 0 then hint zero
  else if durations.any (·.isNone) then throw .endless
  else modify (·.sleep (total (durations.filterMap id)))

/-- Writes the values of variables. -/
def printenv : Tool := fun zero args => do
  let (_, names) ← options zero 2 "0" [] args
  let environment := (← get).environment
  if names.isEmpty then
    say (String.join (environment.map fun (name, value) => name ++ "=" ++ value ++ "\n"))
    setStatus 0
  else
    setStatus 0
    names.forM fun name =>
      match environment.lookup name with
      | some value => say (value ++ "\n")
      | none => setStatus 1

/-- Tells by its status whether a condition holds. -/
def test (isBracket : Bool) : Tool := fun zero args => do
  if isBracket && args.getLast? ≠ some "]" then giveUp zero "missing ']'" 2
  else
    match Condition.read (← get) (if isBracket then args.dropLast else args) with
    | .ok holds => answer holds
    | .error text => giveUp zero text 2

/-- Writes who the user is. -/
def whoami : Tool := fun _ _ => do
  say "root\n"
  setStatus 0

/-- Writes the name of the system. -/
def uname : Tool := fun zero args => do
  let (letters, _) ← options zero 1 "sm" [] args
  let parts := (if letters.isEmpty || Options.has letters 's' then ["Linux"] else [])
    ++ (if Options.has letters 'm' then ["x86_64"] else [])
  say (String.intercalate " " parts ++ "\n")
  setStatus 0

/-- The programs that run nothing else. -/
def table : List (String × Tool) :=
  [("echo", echo), ("printf", printf), ("cat", cat), ("head", head), ("tail", tail), ("tr", tr),
   ("wc", wc), ("cksum", cksum), ("sleep", sleep), ("dirname", dirname), ("basename", basename),
   ("seq", seq), ("rm", rm), ("mkdir", mkdir), ("ls", ls), ("touch", touch),
   ("true", fun _ _ => setStatus 0), ("false", fun _ _ => setStatus 1), ("pwd", pwd),
   ("test", test false), ("[", test true), ("kill", fun _ args => Builtin.kill args),
   ("printenv", printenv), ("yes", yes), ("tee", tee), ("sort", sort), ("uniq", uniq),
   ("cut", cut), ("rmdir", rmdir), ("cp", cp), ("mv", mv), ("ln", ln), ("chmod", chmod),
   ("readlink", readlink), ("realpath", realpath), ("whoami", whoami), ("uname", uname)]

/-- The program with a name, if it runs nothing else. -/
def named? (name : String) : Option Tool := table.lookup name

/-- The programs that run others. -/
def runners : List String := ["env", "nohup", "timeout"]

/-- The programs that a system has, besides the shell. -/
def names : List String := table.map (·.1) ++ runners

end TypeCoverage.Shell.Tool
