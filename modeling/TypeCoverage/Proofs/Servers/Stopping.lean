import TypeCoverage.Proofs.Cut
import TypeCoverage.Proofs.Servers.Stops

/-!
# Stopping servers

A project stays recorded until all servers are to be stopped (`Recorded`), tasks are never
given up, and those who wait go on to wait for the same tasks.  With the accounts that every
event keeps, `Stops.settled` tells what holds of the record, of each stop task and of those
who wait, after events in any order.
-/

namespace TypeCoverage.Servers.Stops

/-! ### What stays -/

/-- A project has been recorded and not been stopped since. -/
def Recorded (past : List Event) (root : Path) : Prop :=
  ∃ before later, past = before ++ .add root :: later ∧
    ∀ timeout waiter, .stopAll timeout waiter ∉ later

theorem recorded_concat (past : List Event) (event : Event) (root : Path) :
  Recorded (past ++ [event]) root ↔
    event = .add root ∨ (∀ timeout waiter, event ≠ .stopAll timeout waiter) ∧ Recorded past root
  := by
  constructor
  · rintro ⟨before, later, same, since⟩
    rcases concat_eq_cut_iff.mp same with ⟨-, rfl, -⟩ | ⟨rest, rfl, cut⟩
    · exact Or.inl rfl
    · refine Or.inr ⟨fun timeout waiter h => ?_, before, rest, cut, fun timeout waiter h => ?_⟩
      · apply since timeout waiter
        simp [h]
      · apply since timeout waiter
        simp [h]
  · rintro (rfl | ⟨other, before, later, rfl, since⟩)
    · exact ⟨past, [], rfl, fun _ _ => List.not_mem_nil⟩
    · refine ⟨before, later ++ [event], by simp, fun timeout waiter mem => ?_⟩
      rcases List.mem_append.1 mem with mem | mem
      · exact since timeout waiter mem
      · exact other timeout waiter (List.mem_singleton.1 mem).symm

theorem mem_roots_step (s : Stops) (event : Event) (root : Path) :
  root ∈ (s.step event).servers.roots ↔
    event = .add root ∨
      (∀ timeout waiter, event ≠ .stopAll timeout waiter) ∧ root ∈ s.servers.roots
  := by
  cases event with
  | add other =>
    change root ∈ (s.servers.add other).roots ↔ _
    simp [mem_roots_add, eq_comm]
  | stopAll timeout waiter => cases waiter <;> simp [step, advance, wake, schedule, await]
  | wait waiter => simp [step, advance, wake, await]
  | turn id turn =>
    have : (s.tell id turn).servers.roots = s.servers.roots := by
      rw [tell]
      dsimp only
      split <;> rfl
    simp [step, advance, wake, this]

theorem mem_roots_run (events : List Event) (root : Path) :
  root ∈ (run events).servers.roots ↔ Recorded events root
  := by
  induction events using List.reverseRecOn with
  | nil => simp [run, empty, Recorded]
  | append_singleton past event ih =>
    rw [recorded_concat, ← ih, run_append]
    apply mem_roots_step

end TypeCoverage.Servers.Stops
