import TypeCoverage.Shell.Word

/-!
# Commands for the working directory

`cd` goes to a directory, which it may look up in those that `CDPATH` lists, and `pwd` names
the directory.  The shell names it by the way that has led to it, unless it is asked for the
place itself.
-/

namespace TypeCoverage.Shell.Builtin

open Action (say setStatus fail options)

/-- The text of a name from the root on. -/
def directoryText (name : List String) : String :=
  Text.octets (Path.mk .root name).text

/-- Moves to a directory; `isPhysical` tells that its name has no links. -/
def enter? (m : Machine) (isPhysical : Bool) (target : String) : Option Machine :=
  let p := Path.ofText (Text.ofOctets target)
  let logical := FileTree.collapse (if p.isAbsolute then p.parts else m.logical ++ p.parts)
  match (if isPhysical then m.find target else m.find (directoryText logical)) with
  | .found name .directory =>
    let m' := { m with cwd := name, logical := if isPhysical then name else logical }
    let set (m : Machine) (variable_ text : String) : Machine :=
      (m.assign variable_ text).mark variable_
    some (set (set m' "OLDPWD" (directoryText m.logical)) "PWD" (directoryText m'.logical))
  | _ => none

/-- The directories in which a directory is looked up, with whether the one that is found is
to be named. -/
def searched (m : Machine) (target : String) : List (String × Bool) :=
  let first := target.toList.takeWhile (· ≠ '/')
  if target.startsWith "/" || first = ['.'] || first = ['.', '.'] then []
  else (((m.value? "CDPATH").getD "").splitOn ":").map fun directory =>
    if directory.isEmpty then (target, false)
    else (if directory.endsWith "/" then directory ++ target else directory ++ "/" ++ target, true)

/-- Changes the working directory. -/
def cd (args : List String) : Action Unit := do
  let (letters, operands) ← options "LP" args
  let isPhysical := (letters.getLast?.map (·.1)) = some 'P'
  let m ← get
  let (target, isNamed) := match operands with
    | [] => ((m.value? "HOME").getD "", false)
    | "-" :: _ => ((m.value? "OLDPWD").getD "", true)
    | target :: _ => (target, false)
  let target := if target.isEmpty then "." else target
  let isDirectory (text : String) : Bool := m.find text matches .found _ .directory
  let (place, isNamed) := match (searched m target).find? fun (text, _) => isDirectory text with
    | some (text, isElsewhere) => (text, isNamed || isElsewhere)
    | none => (target, isNamed)
  match enter? m isPhysical place with
  | some m' =>
    set m'
    if isNamed then say (directoryText m'.logical ++ "\n")
    setStatus 0
  | none => fail ("can't cd to " ++ target)

/-- Writes the working directory, with `-P` without links. -/
def pwd (args : List String) : Action Unit := do
  let (letters, _) ← options "LP" args
  let m ← get
  let isPhysical := (letters.getLast?.map (·.1)) = some 'P'
  say (directoryText (if isPhysical then m.cwd else m.logical) ++ "\n")
  setStatus 0

end TypeCoverage.Shell.Builtin
