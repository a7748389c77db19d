import TypeCoverage.Shell.Builtin.Variables
import TypeCoverage.Shell.Program

/-!
# Names of commands

A name may be an alias, a reserved word, a function, a part of the shell or a program that
is looked up.  `alias` and `unalias` keep the aliases, `type` tells what a name is, and
`hash` keeps which programs have been found.
-/

namespace TypeCoverage.Shell.Builtin

open Action (say complain setStatus warn options)

/-- The commands that are part of the shell and can be replaced by functions. -/
def regularNames : List String :=
  ["[", "alias", "bg", "cd", "chdir", "command", "echo", "false", "fg", "getopts", "hash", "jobs",
   "kill", "printf", "pwd", "read", "test", "true", "type", "ulimit", "umask", "unalias", "wait"]

/-- The line that defines an alias. -/
def aliasLine (name value : String) : String := name ++ "=" ++ quote value ++ "\n"

/-- Sets aliases or writes them. -/
def alias_ (args : List String) : Action Unit := do
  let m ← get
  if args.isEmpty then
    let sorted := m.aliases.mergeSort fun a b => Machine.placeOf a.1 ≤ Machine.placeOf b.1
    say (String.join (sorted.map fun (name, value) => aliasLine name value))
  setStatus 0
  args.forM fun arg => do
    let name := arg.toList.take 1 ++ (arg.toList.drop 1).takeWhile (· ≠ '=')
    if name.length < arg.length then
      let value := String.ofList (arg.toList.drop (name.length + 1))
      modify fun m =>
        let name := String.ofList name
        { m with aliases := if (m.aliases.lookup name).isSome
            then m.aliases.map fun (other, old) => (other, if other = name then value else old)
            else m.aliases ++ [(name, value)] }
    else
      match (← get).aliases.lookup arg with
      | some value => say (aliasLine arg value)
      | none =>
        complain ("alias: " ++ arg ++ " not found")
        setStatus 1

/-- Forgets aliases. -/
def unalias (args : List String) : Action Unit := do
  let (letters, names) ← options "a" args
  setStatus 0
  if !letters.isEmpty then modify fun m => { m with aliases := [] }
  else names.forM fun name => do
    if ((← get).aliases.lookup name).isSome then
      modify fun m => { m with aliases := m.aliases.filter (·.1 ≠ name) }
    else
      complain ("unalias: " ++ name ++ " not found")
      setStatus 1

/-- Tells what a command is, with `isLong` in a sentence.  The answer is the status. -/
def describe (isLong : Bool) (searchPath? : Option String) (name : String) : Action Nat := do
  let m ← get
  let tell (sentence short : String) : Action Nat := do
    say (if isLong then name ++ sentence ++ "\n" else short ++ "\n")
    return 0
  if reservedWords.contains name then tell " is a shell keyword" name
  else match m.aliases.lookup name with
  | some value =>
    if isLong then tell (" is an alias for " ++ value) name
    else
      say ("alias " ++ aliasLine name value)
      return 0
  | none =>
    if (m.functions.lookup name).isSome then tell " is a shell function" name
    else if specialNames.contains name then tell " is a special shell builtin" name
    else if regularNames.contains name then tell " is a shell builtin" name
    else match Launch.pathOf? m.find (searchPath?.getD m.searchPath) name with
      | some path =>
        let isKnown := searchPath?.isNone && m.known.contains name
        if searchPath?.isNone && !isKnown && !name.toList.contains '/' then
          set { m with known := m.known ++ [name] }
        tell ((if isKnown then " is a tracked alias for " else " is ") ++ path) path
      | none =>
        if isLong then say (name ++ ": not found\n")
        return 127

/-- Tells what commands are. -/
def type_ (args : List String) : Action Unit := do
  let statuses ← args.mapM (describe true none)
  setStatus (statuses.foldl (· ||| ·) 0)

/-- The place of a command among those that have been found: these are kept in a table of 31
places. -/
def placeOf (name : String) : Nat :=
  let codes := name.toList.map Char.toNat
  (codes.headD 0 * 16 + total codes) % 31

/-- Finds commands in advance, forgets where they are, or tells it. -/
def hash (args : List String) : Action Unit := do
  let (letters, names) ← options "r" args
  setStatus 0
  if !letters.isEmpty then modify fun m => { m with known := [] }
  else if names.isEmpty then
    let m ← get
    let sorted := m.known.mergeSort fun a b => placeOf a ≤ placeOf b
    say (String.join (sorted.map fun name =>
      ((Launch.pathOf? m.find m.searchPath name).getD name) ++ "\n"))
  else names.forM fun name => do
    let m ← get
    if (m.functions.lookup name).isSome || specialNames.contains name
        || regularNames.contains name then return
    else if !name.toList.contains '/' then
      match Launch.lookUp m.find m.searchPath name with
      | .ok _ => modify fun m => { m with known := m.known.filter (· ≠ name) ++ [name] }
      | .error why =>
        warn (name ++ ": " ++ Launch.words why)
        setStatus 1

end TypeCoverage.Shell.Builtin
