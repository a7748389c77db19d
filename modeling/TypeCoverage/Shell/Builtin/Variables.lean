import TypeCoverage.Shell.Machine
import TypeCoverage.Shell.Token

/-!
# Commands for variables

`export` and `readonly` mark variables and give them values, `local` keeps them until the
end of a function, and `unset` removes variables and functions.  Listings quote each value,
so that they can be read again.
-/

namespace TypeCoverage.Shell.Builtin

open Action (say setStatus fail assign options)

/-- A text between single quotation marks, with those in it between double ones. -/
def quoteFrom : Nat → List Char → List Char
  | 0, _ => []
  | fuel + 1, cs =>
    let plain := cs.takeWhile (· ≠ '\'')
    let rest := cs.drop plain.length
    let marks := rest.takeWhile (· = '\'')
    let left := rest.drop marks.length
    ['\''] ++ plain ++ ['\'']
      ++ (if marks.isEmpty then [] else ['"'] ++ marks ++ ['"'])
      ++ (if left.isEmpty then [] else quoteFrom fuel left)

/-- A text as a word of a script. -/
def quote (s : String) : String := String.ofList (quoteFrom (s.length + 1) s.toList)

/-- The name and the value of an argument that gives a variable a value. -/
def assignmentOf (arg : String) : String × Option String :=
  let name := arg.toList.takeWhile (· ≠ '=')
  (String.ofList name,
    if name.length < arg.length then some (String.ofList (arg.toList.drop (name.length + 1)))
    else none)

/-- A name that a variable can have, or a failure. -/
def checkName (name : String) : Action Unit :=
  if isName name then return else fail (name ++ ": bad variable name")

/-- Writes the variables that satisfy a test in the order of their names, each behind a
front. -/
def showVariables (front : String) (test : Variable → Bool) : Action Unit := do
  let shown := ((← get).variables_.filter fun (_, v) => test v).mergeSort
    fun a b => !decide (b.1 < a.1)
  say (String.join (shown.map fun (name, v) =>
    front ++ name ++ ((v.value?.map fun s => "=" ++ quote s).getD "") ++ "\n"))

/-- Gives variables values and marks them. -/
def declare (readOnly : Bool) (args : List String) : Action Unit := do
  let (letters, operands) ← options "p" args
  if letters.isEmpty && !operands.isEmpty then
    operands.forM fun arg => do
      let (name, value?) := assignmentOf arg
      checkName name
      match value? with
      | some value => assign name value
      | none => pure ()
      modify fun m =>
        let v := (m.variable_ name).getD { value? := none }
        m.putVariable name
          (if readOnly then { v with isReadOnly := true } else { v with isExported := true })
  else if readOnly then showVariables "readonly " (·.isReadOnly)
  else showVariables "export " (·.isExported)
  setStatus 0

/-- Forgets variables, or functions. -/
def unset (args : List String) : Action Unit := do
  let (letters, names) ← options "vf" args
  names.forM fun name => do
    if (letters.getLast?.map (·.1)) = some 'f' then
      modify fun m => { m with functions := m.functions.filter (·.1 ≠ name) }
    else
      checkName name
      if (← get).isReadOnly name then fail (name ++ ": is read only")
      modify (·.removeVariable name)
  setStatus 0

/-- Makes variables local to the function that runs. -/
def localize (args : List String) : Action Unit := do
  if (← get).locals?.isNone then fail "not in a function"
  args.forM fun arg => do
    let (name, value?) := assignmentOf arg
    if arg = "-" then
      modify fun m => { m with savedOptions? := m.savedOptions?.or (some m.options) }
    else
      let old := (← get).variable_ name
      if old.isNone then checkName name
      modify fun m => { m with locals? := m.locals?.map ((name, old) :: ·) }
      match value?, old with
      | some value, _ => assign name value
      | none, some _ => pure ()
      | none, none => modify (·.putVariable name { value? := none })
  setStatus 0

end TypeCoverage.Shell.Builtin
