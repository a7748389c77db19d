import TypeCoverage.CommandLine.Run
import TypeCoverage.Shell.Process
import TypeCoverage.Shell.System

/-!
# The command

`main` reads the files that a command looks at into a file tree, runs the command on it
and prints what it answers.  A checker that is a script is run by the shell of this
library.
-/

namespace TypeCoverage.Main

open CommandLine

/-- The files in a directory that a command looks at, and whether they are run. -/
def lookedAt : List (String × Bool) :=
  [(".flowconfig", false), (".flowcov.toml", false), ("pyproject.toml", false),
   ("node_modules/.bin/flow", true)]

/-- The variables that a command looks at. -/
def variableNames : List String := "PATH" :: Field.all.map Settings.variableName

/-- Adds a file to a tree, if it can be read. -/
def addFile (t : FileTree) (path : Path) (executable : Bool) : IO FileTree := do
  try
    let content ← IO.FS.readBinFile path.text
    return t.write path (.file content.toList executable)
  catch _ => return t

/-- Adds the files to a tree that a command looks at for a path. -/
def addAround (t : FileTree) (path : Path) : IO FileTree := do
  let t ← addFile t path false
  path.ancestors.foldlM (fun t directory =>
    lookedAt.foldlM (fun t (name, executable) =>
      addFile t (directory.join (Path.ofText name)) executable) t) t

/-- The tree that a command runs on. -/
def treeFor (args : List String) : IO FileTree := do
  let here := Path.ofText (← IO.currentDir).toString
  args.foldlM (fun t arg => addAround t (here.join (Path.ofText arg)))
    (← addAround (FileTree.rooted here.parts) here)

/-- The environment that a command runs in. -/
def environment : IO (List (String × String)) := do
  let values ← variableNames.mapM fun name => return (name, ← IO.getEnv name)
  return values.filterMap fun (name, value?) => value?.map (name, ·)

/-- More calls than a command makes. -/
def callLimit : Nat := twoTo 62

/-- The room there is to read settings files: a thousand calls may stand inside one another, of
which a command makes some twenty before it reads a file. -/
def room : Nat := 980

end TypeCoverage.Main

open TypeCoverage

/-- Runs the command that the arguments give. -/
def main (args : List String) : IO UInt32 := do
  let tree ← Main.treeFor args
  let environment ← Main.environment
  let (ending, _) := CommandLine.run Main.callLimit
    { tree := tree.withSystem, environment := environment, room := Main.room,
      answer := CommandLine.started Shell.programs, checker := environment } args
  IO.print ending.output
  if let some text := ending.failure.bind Failure.message? then
    IO.eprintln text
  return ending.exitCode.toUInt32
