import TypeCoverage.FileTree.Basic

/-!
# Child processes

A `Child` is a process from its start to its end: how it ends and what it writes, how
long it runs, when other programs hold its output, and the entries of the file tree that
it changes on its way.  Times are counted in microseconds from the start.
-/

namespace TypeCoverage

/-- A change of one entry of a file tree. -/
inductive Edit where
  | put (name : List String) (node : Node)
  /-- Writes bytes to the end of a file, if it is there. -/
  | append (name : List String) (bytes : List UInt8)
  | remove (name : List String)
  deriving Repr

/-- The tree after a change. -/
def FileTree.edit (t : FileTree) : Edit → FileTree
  | .put name node => t.put name node
  | .append name bytes =>
    match t.entry? name with
    | some (.file content executable) => t.put name (.file (content ++ bytes) executable)
    | _ => t
  | .remove name => { t with entries := t.entries.filter fun (other, _) => !name.isPrefixOf other }

/-- How a process ends: its status, negative for a signal, and what it has written. -/
structure Exit where
  status : Int
  stdout : List UInt8
  stderr : List UInt8
  deriving Repr

/-- A process from its start to its end. -/
structure Child where
  exit : Exit
  duration : Nat
  /-- From when to when another program runs in the foreground and holds the output. -/
  held : List (Nat × Nat)
  edits : List (Nat × Edit)
  deriving Repr

end TypeCoverage
