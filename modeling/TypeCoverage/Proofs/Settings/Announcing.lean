import Mathlib.Data.List.Forall2
import TypeCoverage.Proofs.Settings.Replacing

/-!
# Replacing all settings before observers that keep still

Observers keep still if they leave the store alone (`Session.KeepsStill`): they may read
settings, and keep and edit copies of them.  One of them breaks an action off if something that
it does then fails (`Session.Breaks`).

On the way of a replacement before such observers, the calls that have been made and those that
still stand on the agenda are the ones that the fields assigned so far ask for
(`Announcing.step`, `Announcing.assign`).  From this follows `Session.announcesEachChange`: a
replacement that nobody breaks off returns, leaves the new settings, and has told each field that
changes to each of its observers, in order.  To replace the settings by themselves tells nobody
anything.
-/

namespace TypeCoverage.Settings

/-! ### Assignments as they are asked for by name -/

/-- A value of a field fits the field. -/
theorem Store.checkValue_datum (f : Field) (v : f.Carrier) :
  checkValue f.name (f.datum v) = .ok ⟨f, v⟩
  := by
  rw [checkValue, Field.ofName?_name]
  simp only [Field.check_datum]
  rfl

namespace Session

/-- To assign a value is to set the field with its name to this value. -/
theorem step_perform_set (s : Session) (f : Field) (v : f.Carrier) :
  s.step (.perform (.set f.name (f.datum v))) = s.step (.assign f v)
  := by
  rw [step, begin_set (Store.checkValue_datum f v)]
  rfl

/-- Agendas whose tasks do the same run alike. -/
theorem run_congr {s : Session} {agenda agenda' : List Task}
    (alike : List.Forall₂ (fun task task' => ∀ s : Session, s.step task' = s.step task)
      agenda agenda') :
  s.run agenda' = s.run agenda
  := by
  induction s, agenda using run.induct generalizing agenda' with
  | case1 s =>
    rw [List.forall₂_nil_left_iff.mp alike]
  | case2 s task rest s' e failed =>
    obtain ⟨task', rest', same, others, rfl⟩ := List.forall₂_cons_left_iff.mp alike
    rw [run_cons_of_error rest failed, run_cons_of_error rest' ((same s).trans failed)]
  | case3 s task rest s' tasks done ih =>
    obtain ⟨task', rest', same, others, rfl⟩ := List.forall₂_cons_left_iff.mp alike
    rw [run_cons_of_ok rest done, run_cons_of_ok rest' ((same s).trans done)]
    apply ih
    exact List.rel_append (List.forall₂_same.mpr fun _ _ _ => rfl) others

/-- A run from any place on its way comes to the same end. -/
theorem Reaches.run_eq {s s' : Session} {agenda left : List Task}
    (reached : Reaches s agenda s' left) :
  s.run agenda = s'.run left
  := by
  induction reached with
  | here => rfl
  | step done _ ih => rw [run_cons_of_ok _ done, ih]

end Session

/-! ### Observers that keep still -/

/-- An action that does nothing to the store. -/
def Action.LeavesStore : Action → Prop
  | .set .. | .replace _ | .observe .. | .dispose _ => False
  | _ => True

/-- A task that does nothing to the store. -/
def Task.LeavesStore : Task → Prop
  | .perform a => a.LeavesStore
  | .assign .. => False
  | _ => True

/-- The calls that a task has still to make. -/
def Task.due : Task → List Delivery
  | .deliver f v observers => observers.map fun observer => ⟨observer, f, v⟩
  | _ => []

namespace Session

/-- Observers do nothing to the store. -/
def KeepsStill (s : Session) : Prop :=
  ∀ observer script, (observer, script) ∈ s.scripts → ∀ part ∈ script, ∀ a ∈ part, a.LeavesStore

/-- On the way of an action, something that an observer does fails. -/
def Breaks (s : Session) (a : Action) : Prop :=
  ∃ begun answer tasks s' deed rest e, s.begin a = (begun, .ok (answer, tasks)) ∧
    Reaches begun tasks s' (.perform deed :: rest) ∧ (s'.begin deed).2 = .error e

/-- An action that leaves the store has nothing to be done because of it. -/
theorem begin_of_leavesStore {s s' : Session} {a : Action} (leaves : a.LeavesStore)
    {answer : Answer} {tasks : List Task} (begun : s.begin a = (s', .ok (answer, tasks))) :
  s'.store = s.store ∧ s'.scripts = s.scripts ∧ s'.calls = s.calls ∧ tasks = []
  := by
  cases a with
  | set | replace | observe | dispose => cases leaves
  | get | snapshot | showSnapshot | editSnapshot | raise =>
    simp only [begin] at begun
    repeat' split at begun
    all_goals cases begun <;> exact ⟨rfl, rfl, rfl, rfl⟩

/-- The calls that have been made and those that are still due stay the same, one after
another. -/
theorem step_of_leavesStore {s s' : Session} (still : s.KeepsStill) {task : Task}
    (leaves : task.LeavesStore) {tasks : List Task} (done : s.step task = (s', .ok tasks)) :
  s'.store = s.store ∧ s'.KeepsStill ∧ (∀ next ∈ tasks, next.LeavesStore) ∧
    s'.calls.reverse ++ tasks.flatMap Task.due = s.calls.reverse ++ task.due
  := by
  cases task with
  | assign => cases leaves
  | bind =>
    cases done
    exact ⟨rfl, still, by simp, by simp [Task.due]⟩
  | perform a =>
    simp only [step] at done
    split at done
    · next begun =>
      cases done
      obtain ⟨store, scripts, calls, rfl⟩ := begin_of_leavesStore leaves begun
      refine ⟨store, ?_, by simp, by simp [calls, Task.due]⟩
      rw [KeepsStill, scripts]
      exact still
    · cases done
  | deliver f v observers =>
    cases observers with
    | nil =>
      cases done
      exact ⟨rfl, still, by simp, by simp [Task.due]⟩
    | cons observer observers =>
      obtain ⟨part, kept⟩ := takePart_of (P := fun part => ∀ a ∈ part, a.LeavesStore)
        (by simp) (fun _ _ all => List.forall_mem_cons.mp all) observer still
      cases done
      refine ⟨rfl, kept, fun next mem => ?_, ?_⟩
      · rcases List.mem_append.mp mem with mem | mem
        · obtain ⟨a, known, rfl⟩ := List.mem_map.mp mem
          exact part a known
        · obtain rfl := List.mem_singleton.mp mem
          trivial
      · -- What the observer does makes no calls of its own.
        have silent (part : List Action) : (part.map Task.perform).flatMap Task.due = [] := by
          simp [List.flatMap_eq_nil_iff, Task.due]
        rw [List.flatMap_append, silent]
        simp [Task.due]

/-- The calls that tell the new values of some fields: in the order of the fields, and for each
one that changes, one to every entry that is registered for it, in the order of registration. -/
def announcements (s : Session) (t : Settings) (fields : List Field) : List Delivery :=
  (fields.filter fun f => s.store.settings.get f ≠ t.get f).flatMap fun f =>
    (s.store.observers.filter fun entry => entry.1 = f).map fun entry => ⟨entry.2, f, t.get f⟩

end Session

/-- A session on the way of a replacement before observers that keep still, when some fields have
been assigned and some tasks stand before the next assignment. -/
structure Announcing (base : Session) (t : Settings) (s : Session) (done : List Field)
    (current : List Task) : Prop where
  store : s.store = ⟨base.store.settings.adopt t done, base.store.observers⟩
  still : s.KeepsStill
  leaves : ∀ task ∈ current, task.LeavesStore
  calls : s.calls.reverse ++ current.flatMap Task.due =
    base.calls.reverse ++ base.announcements t done

namespace Announcing

variable {base s s' : Session} {t : Settings} {done : List Field} {task : Task}
  {current tasks : List Task}

/-- What is done before the next assignment keeps it. -/
theorem step (announcing : Announcing base t s done (task :: current))
    (did : s.step task = (s', .ok tasks)) :
  Announcing base t s' done (tasks ++ current)
  := by
  obtain ⟨first, others⟩ := List.forall_mem_cons.mp announcing.leaves
  obtain ⟨store, still, next, calls⟩ := Session.step_of_leavesStore announcing.still first did
  constructor
  case store => rw [store, announcing.store]
  case still => exact still
  case leaves => exact List.forall_mem_append.mpr ⟨next, others⟩
  case calls =>
    rw [← announcing.calls, List.flatMap_append, List.flatMap_cons, ← List.append_assoc, calls,
      List.append_assoc]

/-- The next assignment keeps it. -/
theorem assign (announcing : Announcing base t s done []) {f : Field} (next : f ∉ done) :
  Announcing base t (s.assign f (t.get f)).1 (done ++ [f]) (s.assign f (t.get f)).2
  := by
  have before : s.store.settings.get f = base.store.settings.get f := by
    rw [announcing.store, get_adopt, if_neg next]
  have observers : s.store.observersOf f =
      (base.store.observers.filter fun entry => entry.1 = f).map (·.2) := by
    rw [Store.observersOf, announcing.store]
    rfl
  constructor
  case store =>
    rw [adopt_concat, Session.assign, announcing.store]
    rfl
  case still => exact announcing.still
  case leaves => simp [Session.assign, Task.LeavesStore]
  case calls =>
    have made := announcing.calls
    rw [List.flatMap_nil, List.append_nil] at made
    have told : (s.assign f (t.get f)).2.flatMap Task.due = base.announcements t [f] := by
      rw [Session.assign, Store.change, before, observers, Session.announcements]
      by_cases same : t.get f = base.store.settings.get f
      · simp [same, Task.due]
      · simp [same, Ne.symm same, Task.due, Function.comp_def]
    have more : base.announcements t (done ++ [f]) =
        base.announcements t done ++ base.announcements t [f] := by
      rw [Session.announcements, List.filter_append, List.flatMap_append]
      rfl
    rw [told, more, ← List.append_assoc, ← made]
    rfl

/-- It holds on the whole way of a replacement. -/
theorem of_reaches {agenda : List Task} (still : base.KeepsStill)
    (reached : Session.Reaches base (assignments t Field.all) s agenda) :
  ∃ done todo current, Field.all = done ++ todo ∧ agenda = current ++ assignments t todo ∧
    Announcing base t s done current
  := by
  apply reached.of_assignments
  · exact ⟨rfl, still, by simp, rfl⟩
  · exact step
  · exact fun announcing next => announcing.assign next

end Announcing

/-! ### Whole replacements -/

namespace Session

variable {s : Session} {values : Members} {t : Settings}

/-- Observers that do not raise break nothing off. -/
theorem not_breaks_of_isCalm (calm : s.IsCalm) {a : Action} (quiet : a.IsCalm) :
  ¬ s.Breaks a
  := by
  rintro ⟨begun, answer, tasks, s', deed, rest, e, begins, reached, fails⟩
  obtain ⟨begun', answer', tasks', begins', calm', quiet'⟩ := isCalm_begin calm quiet
  rw [begins] at begins'
  cases begins'
  have ran := run_of_isCalm calm' quiet'
  have failed : s'.step (.perform deed) = ((s'.begin deed).1, .error e) := by
    rw [step]
    split
    · next begins => simp [begins] at fails
    · next begins =>
      rw [begins] at fails ⊢
      cases fails
      rfl
  rw [reached.run_eq, run_cons_of_error rest failed] at ran
  cases ran

/-- A replacement that nobody breaks off comes to its end. -/
theorem reaches_end (valid : ofTable values = .ok t) (unbroken : ¬ s.Breaks (.replace values)) :
  ∃ s', Reaches s (assignments t Field.all) s' []
  := by
  obtain ⟨s', left, reached, -, ⟨-, rfl⟩ | ⟨-, task, rest, e, rfl, fails⟩⟩ :=
    s.exists_reaches (assignments t Field.all)
  · exact ⟨s', reached⟩
  · cases task with
    | perform deed =>
      refine absurd ⟨s, _, _, s', deed, rest, e, begin_replace valid, reached, ?_⟩ unbroken
      rw [step] at fails
      split at fails
      · cases fails
      · next begins =>
        rw [begins]
        cases fails
        rfl
    | deliver f v observers => cases observers <;> cases fails
    | assign | bind => cases fails

/-- To assign the values that the fields have does nothing. -/
theorem run_assignments_self (s : Session) (fields : List Field) :
  s.run (assignments s.store.settings fields) = (s, .ok ())
  := by
  induction fields with
  | nil => rw [assignments, List.map_nil, run]
  | cons f fields ih =>
    have assigned : s.step (.assign f (s.store.settings.get f)) =
        (s, .ok [.deliver f (s.store.settings.get f) []]) := by
      rw [step, assign_self]
    have told : s.step (.deliver f (s.store.settings.get f) []) = (s, .ok []) := rfl
    rw [assignments, List.map_cons, run_cons_of_ok _ assigned, List.singleton_append,
      run_cons_of_ok _ told, List.nil_append]
    exact ih

/-- To replace the settings by themselves changes nothing and calls nobody. -/
theorem perform_replace_self (valid : ofTable values = .ok s.store.settings) :
  s.perform (.replace values) = (s, .ok .done)
  := by
  rw [perform, begin_replace valid]
  simp only [run_assignments_self]

/-- What is certain of a replacement before observers that keep still and do not raise. -/
structure AnnouncesEachChange (s : Session) (values : Members) (t : Settings) : Prop where
  returns : (s.perform (.replace values)).2 = .ok .done
  /-- All settings are the new ones, and the observers are those of before. -/
  store : (s.perform (.replace values)).1.store = ⟨t, s.store.observers⟩
  /-- The calls that have been made are the announcements of all fields that change, in the order
  in which settings have them. -/
  calls : (s.perform (.replace values)).1.calls =
    (s.announcements t [.executablePath, .onlyIfAppropriate, .showUncovered,
      .hyperclickPriority]).reverse ++ s.calls
  /-- Each new value fits its field, and the replacement is to set one field after another. -/
  fits : ∀ f, Store.checkValue f.name (f.datum (t.get f)) = .ok ⟨f, t.get f⟩
  sets : s.perform (.replace values) =
    ((s.run (Field.all.map fun f => .perform (.set f.name (f.datum (t.get f))))).1, .ok .done)
  /-- To replace the settings by the new ones once more changes nothing and calls nobody. -/
  again : (s.perform (.replace values)).1.perform (.replace values) =
    ((s.perform (.replace values)).1, .ok .done)

/-- A replacement before observers that keep still and do not raise tells each field that changes
to each of its observers, in the order of the fields and of the registrations, and nothing else
to anyone. -/
theorem announcesEachChange (valid : ofTable values = .ok t) (still : s.KeepsStill)
    (unbroken : ¬ s.Breaks (.replace values)) :
  s.AnnouncesEachChange values t
  := by
  obtain ⟨s', reached⟩ := reaches_end valid unbroken
  have ran : s.run (assignments t Field.all) = (s', .ok ()) := by
    rw [reached.run_eq, run]
  have performed : s.perform (.replace values) = (s', .ok .done) := by
    rw [perform, begin_replace valid]
    simp only [ran]
  obtain ⟨done, todo, current, cut, nothing, announcing⟩ := Announcing.of_reaches still reached
  obtain ⟨rfl, assigned⟩ := List.append_eq_nil_iff.mp nothing.symm
  obtain rfl := List.map_eq_nil_iff.mp assigned
  obtain rfl : Field.all = done := by rwa [List.append_nil] at cut
  have store : s'.store = ⟨t, s.store.observers⟩ := by rw [announcing.store, adopt_all]
  constructor
  case returns => rw [performed]
  case store => rw [performed, store]
  case calls =>
    have made := announcing.calls
    rw [List.flatMap_nil, List.append_nil, Field.all] at made
    rw [performed, ← List.reverse_inj]
    simpa using made
  case fits => exact fun f => Store.checkValue_datum f (t.get f)
  case sets =>
    have alike : s.run (Field.all.map fun f => .perform (.set f.name (f.datum (t.get f)))) =
        s.run (assignments t Field.all) := by
      apply run_congr
      rw [assignments, List.forall₂_map_left_iff, List.forall₂_map_right_iff]
      exact List.forall₂_same.mpr fun f _ s => step_perform_set s f (t.get f)
    rw [alike, ran, performed]
  case again =>
    rw [performed]
    apply perform_replace_self
    rw [store, valid]

/-- A session with an observer of the regions and two observers of the executable, of which one
keeps a copy of the settings when it is told of a change, and with an observer of a field that
does not change. -/
def readingSample : Session :=
  (start {}).performAll
    [.observe "showing" "show_uncovered" "shower" [],
      .observe "reading" "executable_path" "reader" [[], [.snapshot "seen", .get "executable_path"]],
      .observe "counting" "executable_path" "counter" [],
      .observe "idling" "hyperclick_priority" "idler" []]

theorem readingSample_eq :
  readingSample =
    { store := ⟨{}, [(.showUncovered, "shower"), (.executablePath, "reader"),
        (.executablePath, "counter"), (.hyperclickPriority, "idler")]⟩
      scripts := [("shower", []), ("reader", [[.snapshot "seen", .get "executable_path"]]),
        ("counter", []), ("idler", [])]
      subscriptions := [("idling", .hyperclickPriority, "idler"),
        ("counting", .executablePath, "counter"), ("reading", .executablePath, "reader"),
        ("showing", .showUncovered, "shower")]
      copies := []
      calls := [⟨"idler", .hyperclickPriority, (0 : Int)⟩, ⟨"counter", .executablePath, ""⟩,
        ⟨"reader", .executablePath, ""⟩, ⟨"shower", .showUncovered, false⟩] }
  := by
  exact performAll_of_within (n := 6) rfl

theorem keepsStill_readingSample :
  readingSample.KeepsStill
  := by
  rw [readingSample_eq, KeepsStill]
  rintro observer script (_ | ⟨_, _ | ⟨_, _ | ⟨_, _ | ⟨_, ⟨⟩⟩⟩⟩⟩)
  · simp
  · simp [Action.LeavesStore]
  · simp
  · simp

theorem isCalm_readingSample :
  readingSample.IsCalm
  := by
  rw [readingSample_eq, IsCalm]
  rintro observer script (_ | ⟨_, _ | ⟨_, _ | ⟨_, _ | ⟨_, ⟨⟩⟩⟩⟩⟩)
  · trivial
  · exact ⟨⟨trivial, ⟨.executablePath, rfl⟩, trivial⟩, trivial⟩
  · trivial
  · trivial

theorem announcesEachChange_readingSample :
  ofTable newValuesSample = .ok newSettingsSample ∧ readingSample.KeepsStill ∧
    ¬ readingSample.Breaks (.replace newValuesSample) ∧
    readingSample.AnnouncesEachChange newValuesSample newSettingsSample ∧
    (readingSample.perform (.replace newValuesSample)).1.calls =
      [⟨"shower", .showUncovered, true⟩, ⟨"counter", .executablePath, "/opt/flow"⟩,
        ⟨"reader", .executablePath, "/opt/flow"⟩] ++ readingSample.calls
  := by
  have unbroken : ¬ readingSample.Breaks (.replace newValuesSample) :=
    not_breaks_of_isCalm isCalm_readingSample ⟨_, ofTable_newValuesSample⟩
  have announces :=
    announcesEachChange ofTable_newValuesSample keepsStill_readingSample unbroken
  refine ⟨ofTable_newValuesSample, keepsStill_readingSample, unbroken, announces, ?_⟩
  rw [announces.calls, readingSample_eq]
  rfl

end Session

end TypeCoverage.Settings
