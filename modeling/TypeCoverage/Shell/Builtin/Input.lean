import TypeCoverage.Shell.Builtin.Variables
import TypeCoverage.Shell.Word

/-!
# Reading a line

`read` takes a line from the input, with those that a backslash at its end joins to it, and
cuts it into fields for variables.
-/

namespace TypeCoverage.Shell.Builtin

open Action (answer fail assign options)

/-- A line of input as characters, each with whether a backslash stands before it, unless
the line is read as it is.  The answer tells whether the next line belongs to it. -/
def lineCharacters (asIs : Bool) : List Char → List (Bool × Char) × Bool
  | [] => ([], false)
  | ['\\'] => if asIs then ([(false, '\\')], false) else ([], true)
  | '\\' :: c :: cs =>
    if asIs then
      let (more, goesOn) := lineCharacters asIs (c :: cs)
      ((false, '\\') :: more, goesOn)
    else
      let (more, goesOn) := lineCharacters asIs cs
      ((true, c) :: more, goesOn)
  | c :: cs =>
    let (more, goesOn) := lineCharacters asIs cs
    ((false, c) :: more, goesOn)

/-- Reads a line, and the lines that belong to it, `fuel` at most.  The answer tells whether
its end is there. -/
def readLine (asIs : Bool) : Nat → Action (List (Bool × Char) × Bool)
  | 0 => return ([], false)
  | fuel + 1 => do
    match (← get).takeLine? with
    | none => return ([], false)
    | some (bytes, isComplete, m) =>
      set m
      let text := (Text.holding (bytes.filter (· ≠ 0))).toList
      let (cs, goesOn) := lineCharacters asIs text
      if goesOn && isComplete then
        let (more, isComplete) ← readLine asIs fuel
        return (cs ++ more, isComplete)
      else return (cs, isComplete)

/-- Whether a character separates fields. -/
def separates (separators : List Char) (c : Bool × Char) : Bool :=
  !c.1 && separators.contains c.2

/-- Whether a character is a blank that separates fields. -/
def isBlank (separators : List Char) (c : Bool × Char) : Bool :=
  separates separators c && isSeparatingBlank c.2

/-- What follows the end of a field: blanks and one other separator. -/
def dropSeparator (separators : List Char) (cs : List (Bool × Char)) : List (Bool × Char) :=
  let rest := cs.dropWhile (isBlank separators)
  match rest with
  | c :: more =>
    if separates separators c then more.dropWhile (isBlank separators) else rest
  | [] => []

/-- The fields of a line for some names; the last one gets all that is left, but a single
field without what ends it. -/
def fieldsFor (separators : List Char) : Nat → List (Bool × Char) → List String
  | 0, _ => []
  | count + 1, cs =>
    let cs := cs.dropWhile (isBlank separators)
    let value := cs.takeWhile (!separates separators ·)
    let rest := dropSeparator separators (cs.drop value.length)
    let text (cs : List (Bool × Char)) : String := String.ofList (cs.map (·.2))
    if count = 0 then
      [text (if rest.isEmpty then value else (cs.reverse.dropWhile (isBlank separators)).reverse)]
    else text value :: fieldsFor separators count rest

/-- Reads a line of the input into variables. -/
def read (args : List String) : Action Unit := do
  let (letters, names) ← options "p:r" args
  if names.isEmpty then fail "arg count"
  else
    let m ← get
    let fuel := (m.source?.map fun (_, s) => total (s.chunks.map (·.2.length))).getD 0
    let (cs, isComplete) ← readLine (Options.has letters 'r') (fuel + 1)
    let values := fieldsFor (← get).separators names.length cs
    (names.zip values).forM fun (name, value) => do
      checkName name
      assign name value
    answer isComplete

end TypeCoverage.Shell.Builtin
