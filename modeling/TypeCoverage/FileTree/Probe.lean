import TypeCoverage.FileTree.Basic
import TypeCoverage.Failure

/-!
# Probing a path

A probe asks what a path leads to.  A path that leads nowhere, through a file or in a
circle does not exist; only a name that is too long is a failure.
-/

namespace TypeCoverage.FileTree

/-- What a path leads to, if anything. -/
def probe (t : FileTree) (p : Path) : Except Failure (Option Node) :=
  match t.walk p with
  | .found _ node => .ok (some node)
  | .nameTooLong => .error (.file .nameTooLong p.text)
  | _ => .ok none

/-- Only a name that is too long is a failure. -/
theorem probe_eq_error_iff {t : FileTree} {p : Path} {why : Failure} :
  t.probe p = .error why ↔ t.walk p = .nameTooLong ∧ why = .file .nameTooLong p.text
  := by
  rw [probe]
  cases t.walk p <;> simp [eq_comm]

/-- Whether a path exists. -/
def exists? (t : FileTree) (p : Path) : Except Failure Bool :=
  (t.probe p).map Option.isSome

/-- A regular file. -/
def isFile : Option Node → Bool
  | some (.file ..) => true
  | _ => false

/-- A directory. -/
def isDirectory : Option Node → Bool
  | some .directory => true
  | _ => false

/-- The first path of a list that satisfies a test, or the failure of a nearer one. -/
def firstWhere (test : Path → Except Failure Bool) : List Path → Except Failure (Option Path)
  | [] => .ok none
  | p :: ps =>
    match test p with
    | .error e => .error e
    | .ok true => .ok (some p)
    | .ok false => firstWhere test ps

end TypeCoverage.FileTree
