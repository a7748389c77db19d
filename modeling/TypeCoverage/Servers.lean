import TypeCoverage.Call
import TypeCoverage.FileTree.Path

/-!
# Servers started by the checker

`Servers` records the projects for which the checker has started a server, each once, and
the stop tasks that have been scheduled and have not finished.  `stopAll` empties the
record and schedules one task for each project, in the order of their paths.
-/

namespace TypeCoverage

/-- A task that stops the server of a project. -/
structure StopTask where
  id : Nat
  root : Path
  deriving DecidableEq, Repr

/-- The projects with a server, the stop tasks that are still running, and how many have
been scheduled so far. -/
structure Servers where
  roots : List Path
  pending : List Nat
  scheduled : Nat
  deriving Repr

namespace Servers

/-- No servers. -/
def empty : Servers := ⟨[], [], 0⟩

/-- Records the server of a project. -/
def add (s : Servers) (root : Path) : Servers :=
  if s.roots.contains root then s else { s with roots := s.roots ++ [root] }

/-- The recorded projects in the order of their paths. -/
def sorted (s : Servers) : List Path := s.roots.mergeSort Path.le

/-- Empties the record and schedules a stop task for each project. -/
def stopAll (s : Servers) : Servers × List StopTask :=
  let tasks := s.sorted.mapIdx fun i root => ⟨s.scheduled + i, root⟩
  ({ roots := [], pending := s.pending ++ tasks.map (·.id),
     scheduled := s.scheduled + tasks.length }, tasks)

/-- A stop task has finished. -/
def finish (s : Servers) (id : Nat) : Servers := { s with pending := s.pending.erase id }

/-- The call that stops the server of a project. -/
def stopCall (executable : String) (root : Path) (timeout : Option Binary64) : Call :=
  { executable := executable
    args := ["stop"]
    cwd := some root
    timeout := timeout
    ignoreExitCode := true
    detached := true }

@[simp]
theorem roots_stopAll (s : Servers) :
  s.stopAll.1.roots = []
  := rfl

/-- There is one stop task for each recorded project, in the order of their paths. -/
theorem map_root_stopAll (s : Servers) :
  s.stopAll.2.map (·.root) = s.sorted
  := by
  apply List.ext_getElem <;> simp [stopAll]

theorem mem_roots_add (s : Servers) (root other : Path) :
  other ∈ (s.add root).roots ↔ other = root ∨ other ∈ s.roots
  := by
  unfold add
  split
  · next h =>
    have : root ∈ s.roots := List.contains_iff_mem.1 h
    constructor
    · exact Or.inr
    · rintro (rfl | h)
      · exact this
      · exact h
  · simp [or_comm]

end Servers

end TypeCoverage
