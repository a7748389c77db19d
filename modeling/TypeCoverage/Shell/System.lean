import TypeCoverage.Shell.Program
import TypeCoverage.Shell.Tool

/-!
# The programs of a system

A system has the shell and its programs in one directory, to which other usual
directories of programs lead, and some directories that every system has.
-/

namespace TypeCoverage.FileTree

open Shell

/-- The directories that every system has. -/
def systemDirectories : List (List String) :=
  [["dev"], ["etc"], ["home"], ["opt"], ["proc"], ["root"], ["tmp"], ["usr"], ["usr", "bin"],
   ["usr", "sbin"], ["usr", "local"], ["usr", "local", "bin"], ["usr", "local", "sbin"], ["var"]]

/-- The links that every system has, with their targets. -/
def systemLinks : List (List String × String) :=
  [(["bin"], "usr/bin"), (["sbin"], "usr/sbin")]

/-- The names of the programs of the system. -/
def systemPrograms : List (List String) :=
  (Launch.shellNames ++ Tool.names).map fun name => Launch.systemDirectory ++ [name]

/-- The tree with the programs of a system in it; what a tree has already is kept. -/
def withSystem (t : FileTree) : FileTree :=
  let entries := systemDirectories.map (·, Node.directory)
    ++ systemLinks.map (fun (name, target) => (name, .link target))
    ++ systemPrograms.map (·, .file [] true)
    ++ [(["dev", "null"], .file [] false)]
  { t with entries := t.entries ++ entries.filter fun (name, _) => (t.entry? name).isNone }

end TypeCoverage.FileTree
