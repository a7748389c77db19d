import TypeCoverage.FileTree.Probe

/-!
# Looking upward for markers and programs

`findUpward` looks for a name in a directory and in each of its parents and answers the
nearest path that exists.  Answers, also negative ones, are kept in a `Memo` under the
text of the start and the name; failures are not kept.  The memo holds the `Memo.capacity`
most recently used keys.  The program of the checker is the configured one, or else the
nearest one installed for the project, or else the bare command `defaultExecutable`.
-/

namespace TypeCoverage

/-- What a lookup is remembered under: the text of its start and the name. -/
structure Memo.Key where
  start : String
  name : String
  deriving DecidableEq, Repr

/-- Remembered lookups, the most recently used first. -/
structure Memo where
  entries : List (Memo.Key × Option Path)
  deriving Repr

namespace Memo

/-- The most keys that are kept. -/
def capacity : Nat := 256

/-- The memo that remembers nothing. -/
def empty : Memo := ⟨[]⟩

/-- What is remembered under a key. -/
def find? (m : Memo) (key : Key) : Option (Option Path) :=
  m.entries.lookup key

/-- Makes an entry the most recently used one and drops what no longer fits. -/
def touch (m : Memo) (key : Key) (found : Option Path) : Memo :=
  ⟨((key, found) :: m.entries.filter (·.1 != key)).take capacity⟩

theorem length_touch_le (m : Memo) (key : Key) (found : Option Path) :
  (m.touch key found).entries.length ≤ capacity
  := List.length_take_le ..

end Memo

namespace Locator

/-- The upward walk without a memo. -/
def walkUpward (t : FileTree) (start name : String) : Except Failure (Option Path) :=
  FileTree.firstWhere t.exists?
    ((Path.ofText start).ancestors.map (·.join (Path.ofText name)))

/-- The nearest path with a name at or above a directory, from the memo if it is there. -/
def findUpward (t : FileTree) (m : Memo) (start name : String) :
    Except Failure (Option Path) × Memo :=
  let key : Memo.Key := ⟨start, name⟩
  match m.find? key with
  | some found => (.ok found, m.touch key found)
  | none =>
    match walkUpward t start name with
    | .ok found => (.ok found, m.touch key found)
    | .error e => (.error e, m)

/-- The marker of a project. -/
def projectMarker : String := ".flowconfig"

/-- Where a project keeps its own checker. -/
def localBinary : String := "node_modules/.bin/flow"

/-- The command to run where there is nothing else. -/
def defaultExecutable : String := "flow"

/-- The nearest project marker at or above a directory. -/
def findProject (t : FileTree) (m : Memo) (start : String) :
    Except Failure (Option Path) × Memo :=
  findUpward t m start projectMarker

/-- The program of the checker for files in a directory; a lookup that fails counts as
one that finds nothing. -/
def resolveExecutable (t : FileTree) (m : Memo) (start configured : String) : String × Memo :=
  if configured ≠ "" then (configured, m)
  else match findUpward t m start localBinary with
    | (.ok (some path), m) => (path.text, m)
    | (_, m) => (defaultExecutable, m)

end Locator

end TypeCoverage
