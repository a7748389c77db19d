import TypeCoverage.Proofs.Settings.Watched

/-!
# Observers that do not raise

An action is calm if it does not fail, and neither does anything in the script of an
observer that it registers.  In a session whose observers all have such scripts, a calm
action returns (`Session.run_of_isCalm`).
-/

namespace TypeCoverage.Settings

mutual

/-- An action that does not fail, and neither do those of an observer that it registers. -/
def Action.IsCalm : Action → Prop
  | .set name d => ∃ v, Store.checkValue name d = .ok v
  | .get name => ∃ f, Field.ofName? name = some f
  | .replace values => ∃ settings, ofTable values = .ok settings
  | .observe _ name _ script => (∃ f, Field.ofName? name = some f) ∧ scriptIsCalm script
  | .dispose _ => True
  | .snapshot _ => True
  | _ => False

/-- No part of a script fails. -/
def scriptIsCalm : List (List Action) → Prop
  | [] => True
  | part :: parts => partIsCalm part ∧ scriptIsCalm parts

/-- No action of a part fails. -/
def partIsCalm : List Action → Prop
  | [] => True
  | action :: actions => action.IsCalm ∧ partIsCalm actions

end

theorem partIsCalm_iff (part : List Action) :
  partIsCalm part ↔ ∀ a ∈ part, a.IsCalm
  := by
  induction part with
  | nil => simp [partIsCalm]
  | cons a part ih => simp [partIsCalm, ih]

/-- The actions of a task do not fail. -/
def Task.IsCalm : Task → Prop
  | .perform a => a.IsCalm
  | _ => True

namespace Session

/-- No observer raises. -/
def IsCalm (s : Session) : Prop :=
  ∀ observer script, (observer, script) ∈ s.scripts → scriptIsCalm script

/-- If all scripts have a property, so have those that are left when an observer is called, and
the part that it takes off its own has what each part of such a script has. -/
theorem takePart_of {P : List Action → Prop} {Q : List (List Action) → Prop} (nothing : P [])
    (parts : ∀ part parts, Q (part :: parts) → P part ∧ Q parts) (observer : String)
    {scripts : List (String × List (List Action))}
    (all : ∀ name script, (name, script) ∈ scripts → Q script) :
  P (takePart observer scripts).1 ∧
    ∀ name script, (name, script) ∈ (takePart observer scripts).2 → Q script
  := by
  induction scripts with
  | nil => exact ⟨nothing, all⟩
  | cons head rest ih =>
    obtain ⟨name, script⟩ := head
    have first := all name script List.mem_cons_self
    have others : ∀ name script, (name, script) ∈ rest → Q script :=
      fun name script mem => all name script (List.mem_cons_of_mem _ mem)
    unfold takePart
    split
    · cases script with
      | nil => exact ⟨nothing, all⟩
      | cons part more =>
        obtain ⟨now, later⟩ := parts part more first
        refine ⟨now, fun other script mem => ?_⟩
        rcases List.mem_cons.1 mem with same | mem
        · cases same
          exact later
        · exact others other script mem
    · obtain ⟨part, kept⟩ := ih others
      refine ⟨part, fun other script mem => ?_⟩
      rcases List.mem_cons.1 mem with same | mem
      · cases same
        exact first
      · exact kept other script mem

/-- A script that is added to scripts with a property has it, too, or is not added. -/
theorem addScript_of {Q : List (List Action) → Prop}
    {scripts : List (String × List (List Action))}
    (all : ∀ name script, (name, script) ∈ scripts → Q script) (observer : String)
    {script : List (List Action)} (new : Q script) :
  ∀ other script', (other, script') ∈ addScript observer script scripts → Q script'
  := by
  intro other script' mem
  rw [addScript] at mem
  split at mem
  · exact all other script' mem
  · rcases List.mem_append.mp mem with mem | mem
    · exact all other script' mem
    · obtain ⟨-, rfl⟩ := Prod.mk.inj (List.mem_singleton.mp mem)
      exact new

theorem begin_set {name : String} {d : Datum} {f : Field} {v : f.Carrier}
    (checked : Store.checkValue name d = .ok ⟨f, v⟩) (s : Session) :
  s.begin (.set name d) = ((s.assign f v).1, .ok (.done, (s.assign f v).2))
  := by
  simp only [begin, checked]

theorem begin_dispose {s : Session} {subscription : String} {f : Field} {observer : String}
    (known : s.subscriptions.lookup subscription = some (f, observer)) :
  s.begin (.dispose subscription) =
    ({ s with store := s.store.forget f observer }, .ok (.done, []))
  := by
  simp only [begin, known]

theorem isCalm_begin {s : Session} (calm : s.IsCalm) {a : Action} (quiet : a.IsCalm) :
  ∃ s' answer tasks, s.begin a = (s', .ok (answer, tasks)) ∧ s'.IsCalm ∧
    ∀ task ∈ tasks, task.IsCalm
  := by
  cases a with
  | set name d =>
    obtain ⟨⟨f, v⟩, checked⟩ := quiet
    exact ⟨_, _, _, begin_set checked s, calm, by simp [assign, Task.IsCalm]⟩
  | get name =>
    obtain ⟨f, known⟩ := quiet
    exact ⟨_, _, _, by rw [begin, known], calm, by simp⟩
  | replace values =>
    obtain ⟨settings, valid⟩ := quiet
    refine ⟨_, _, _, by rw [begin, valid], calm, ?_⟩
    simp [Task.IsCalm]
  | observe subscription name observer script =>
    obtain ⟨⟨f, known⟩, quiet⟩ := quiet
    have added := addScript_of calm observer quiet
    rw [begin, known]
    exact ⟨_, _, _, rfl, added, by simp [Task.IsCalm]⟩
  | dispose subscription =>
    cases known : s.subscriptions.lookup subscription with
    | none => exact ⟨_, _, _, by rw [begin, known], calm, by simp⟩
    | some pair => exact ⟨_, _, _, begin_dispose known, calm, by simp⟩
  | snapshot copy => exact ⟨_, _, _, rfl, calm, by simp⟩
  | showSnapshot | editSnapshot | raise => cases quiet

theorem isCalm_step {s : Session} (calm : s.IsCalm) {task : Task} (quiet : task.IsCalm) :
  ∃ s' tasks, s.step task = (s', .ok tasks) ∧ s'.IsCalm ∧ ∀ next ∈ tasks, next.IsCalm
  := by
  cases task with
  | perform a =>
    obtain ⟨s', answer, tasks, begun, calm', quiet'⟩ := isCalm_begin calm quiet
    exact ⟨s', tasks, by rw [step, begun], calm', quiet'⟩
  | assign f v => exact ⟨_, _, rfl, calm, by simp [Task.IsCalm]⟩
  | bind => exact ⟨_, _, rfl, calm, by simp⟩
  | deliver f v observers =>
    cases observers with
    | nil => exact ⟨_, _, rfl, calm, by simp⟩
    | cons observer observers =>
      obtain ⟨part, kept⟩ := takePart_of (P := partIsCalm) trivial (fun _ _ quiet => quiet)
        observer calm
      refine ⟨_, _, rfl, kept, ?_⟩
      rw [partIsCalm_iff] at part
      intro next mem
      rcases List.mem_append.1 mem with mem | mem
      · obtain ⟨a, known, rfl⟩ := List.mem_map.1 mem
        exact part a known
      · obtain rfl := List.mem_singleton.1 mem
        trivial

theorem run_of_isCalm {s : Session} {agenda : List Task} (calm : s.IsCalm)
    (quiet : ∀ task ∈ agenda, task.IsCalm) :
  (s.run agenda).2 = .ok ()
  := by
  induction s, agenda using run.induct with
  | case1 s => rw [run]
  | case2 s task rest s' e h =>
    obtain ⟨_, _, same, -⟩ := isCalm_step calm (quiet task List.mem_cons_self)
    rw [h] at same
    cases same
  | case3 s task rest s' tasks h ih =>
    obtain ⟨_, _, same, calm', quiet'⟩ := isCalm_step calm (quiet task List.mem_cons_self)
    rw [h] at same
    cases same
    rw [run_cons_of_ok rest h]
    apply ih calm'
    intro next mem
    rcases List.mem_append.1 mem with mem | mem
    · exact quiet' next mem
    · exact quiet next (List.mem_cons_of_mem _ mem)

end Session

end TypeCoverage.Settings
