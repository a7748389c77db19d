import TypeCoverage.FileTree.Probe
import TypeCoverage.Text.Octets

/-!
# Finding programs

A program is named by a path, or by a name that is looked up in the directories of a
search path.  What stands there is a program of the system, the shell, a native program, or
a script that names its interpreter in its first line.  A `Launch` is a program with its
arguments, once its interpreters are found.  All texts hold bytes.
-/

namespace TypeCoverage

/-- What is run. -/
inductive Program where
  | tool (name : String)
  | shell
  /-- A native program, at a path. -/
  | native (path : String)
  /-- A text that names no interpreter, at a path. -/
  | plain (path : String)
  deriving DecidableEq, Repr

/-- Why a path cannot be run. -/
inductive Obstacle where
  | missing
  | notDirectory
  | denied
  | nameTooLong
  | tooManyLinks
  /-- The file is no program that the system knows how to run. -/
  | noFormat
  deriving DecidableEq, Repr

/-- A program with the name that it is given and its arguments. -/
structure Launch where
  program : Program
  zero : String
  args : List String
  deriving Repr

namespace Launch

/-- The directory of the programs of the system. -/
def systemDirectory : List String := ["usr", "bin"]

/-- The names of the shell. -/
def shellNames : List String := ["sh", "dash", "bash"]

/-- The most bytes at the beginning of a file in which its interpreter is named. -/
def headLimit : Nat := 256

/-- A space or a tab. -/
def isBlank (b : UInt8) : Bool := b = 32 || b = 9

/-- The name of an interpreter with its argument. -/
abbrev Interpreter : Type := String × List String

/-- The interpreter and its argument in the rest of a line; blanks after the name without
anything behind them give the empty argument if `keepsBlanks`. -/
def splitLine (keepsBlanks : Bool) (line : List UInt8) : Interpreter :=
  let line := line.dropWhile isBlank
  let name := line.takeWhile (!isBlank ·)
  let after := line.drop name.length
  let argument := after.dropWhile isBlank
  (Text.holding name,
    if after.isEmpty || (argument.isEmpty && !keepsBlanks) then [] else [Text.holding argument])

/-- The interpreter that the beginning of a script names, with its argument.  A line that
does not end there may be cut off in the argument, but not in the name. -/
def interpreter? (content : List UInt8) : Option Interpreter :=
  let head := (content.take headLimit).takeWhile (· ≠ 0)
  match head with
  | 35 :: 33 :: body =>
    if body.contains 10 then
      let line := body.takeWhile (· ≠ 10)
      let line := (line.reverse.dropWhile isBlank).reverse
      if line.all isBlank then none else some (splitLine false line)
    else if head.length < headLimit then some (splitLine true body)
    else if (body.dropWhile isBlank).any isBlank then
      let line := (body.dropLast.reverse.dropWhile isBlank).reverse
      if line.all isBlank then none else some (splitLine false line)
    else none
  | _ => none

/-- The first bytes of a native program. -/
def nativeMark : List UInt8 := [0x7f, 0x45, 0x4c, 0x46]

/-- The executable file at which a walk arrives: its name and what it holds. -/
def fileAt : FileTree.Arrival → Except Obstacle (List String × List UInt8)
  | .found name (.file content true) => .ok (name, content)
  | .found _ _ => .error .denied
  | .missing => .error .missing
  | .notDirectory => .error .notDirectory
  | .tooManyLinks => .error .tooManyLinks
  | .nameTooLong => .error .nameTooLong

/-- The launch of what stands at a path.  A script is launched by its interpreter, which
may be a script in turn, `depth` times at most. -/
def ofPath (find : String → FileTree.Arrival) (args : List String) :
    Nat → String → String → Except Obstacle Launch
  | 0, _, _ => .error .tooManyLinks
  | depth + 1, zero, text =>
    match fileAt (find text) with
    | .error why => .error why
    | .ok (name, content) =>
      let last := name.getLast?.getD ""
      if name.dropLast = systemDirectory then
        .ok ⟨if shellNames.contains last then .shell else .tool last, zero, args⟩
      else if nativeMark.isPrefixOf content then .ok ⟨.native text, zero, args⟩
      else match interpreter? content with
        | none => .ok ⟨.plain text, zero, args⟩
        | some (interpreter, more) =>
          ofPath find (more ++ text :: args) depth interpreter interpreter

/-- How often an interpreter may be a script itself. -/
def scriptLimit : Nat := 5

/-- The directories in which programs are looked up if nothing else is said. -/
def usualSearchPath : String := "/usr/local/sbin:/usr/local/bin:/usr/sbin:/usr/bin:/sbin:/bin"

/-- Where a program is looked up if the environment does not say it. -/
def spareSearchPath : String := "/bin:/usr/bin"

/-- The paths at which a program is looked up, in order. -/
def candidates (searchPath name : String) : List String :=
  if name.toList.contains '/' then [name]
  else (searchPath.splitOn ":").map fun directory =>
    if directory.isEmpty then name
    else if directory.endsWith "/" then directory ++ name
    else directory ++ "/" ++ name

/-- The first answer for one of some paths.  Without any, the obstacle is the first one
that is more than that nothing is there, which is `met?` so far. -/
def search {α : Type} (find : String → Except Obstacle α) (met? : Option Obstacle) :
    List String → Except Obstacle α
  | [] => .error (met?.getD .missing)
  | text :: texts =>
    match find text with
    | .ok found => .ok found
    | .error why =>
      if texts.isEmpty then .error (met?.getD why)
      else search find
        (if why = .missing || why = .notDirectory then met? else met?.or (some why)) texts

/-- A launch of something that names how it is run. -/
def withFormat (l : Launch) : Except Obstacle Launch :=
  match l.program with
  | .plain _ => .error .noFormat
  | _ => .ok l

/-- The launch that a name and arguments stand for where nothing else can be run than the
programs of the system and scripts that name their interpreters. -/
def ofNameWithFormat (find : String → FileTree.Arrival) (searchPath name : String)
    (args : List String) : Except Obstacle Launch :=
  search (fun text => (ofPath find args scriptLimit name text).bind withFormat) none
    (candidates searchPath name)

end Launch

end TypeCoverage
