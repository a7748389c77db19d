import TypeCoverage.Settings.Store

/-!
# Observers that act

An observer, when it is called, may itself act on the store: each call takes the next part
of its script and performs it before the caller goes on.  `Session.perform` runs one
action with all the calls that follow from it.  What is still to be done stands on an
agenda; a failure ends the whole agenda, as it leaves every call it passes through, but
keeps what was done before it.

The run ends because each step uses up an action, of the agenda or of a script, or else
shortens the agenda and leaves the actions as many as they were (`weigh_step_lt`).
-/

namespace TypeCoverage.Settings

/-- An action on a store. -/
inductive Action where
  | set (name : String) (value : Datum)
  | get (name : String)
  | replace (values : Members)
  /-- Subscribes an observer under the name of a subscription.  The script counts when
  the observer is new. -/
  | observe (subscription name observer : String) (script : List (List Action))
  | dispose (subscription : String)
  /-- Keeps a copy of the settings. -/
  | snapshot (copy : String)
  | showSnapshot (copy : String)
  | editSnapshot (copy name : String) (value : Datum)
  | raise

/-- What an action answers. -/
inductive Answer where
  | done
  | value (field : Field) (value : field.Carrier)
  | settings (settings : Settings)
  | noSubscription

/-- A thing still to be done. -/
inductive Task where
  | perform (action : Action)
  | assign (field : Field) (value : field.Carrier)
  | deliver (field : Field) (value : field.Carrier) (observers : List String)
  | bind (subscription : String) (field : Field) (observer : String)

/-- One call of an observer with a value. -/
structure Delivery where
  observer : String
  field : Field
  value : field.Carrier

/-- A store with its observers and their scripts, the subscriptions and copies by name,
and the calls made so far, the last one first. -/
structure Session where
  store : Store String
  scripts : List (String × List (List Action))
  subscriptions : List (String × Field × String)
  copies : List (String × Settings)
  calls : List Delivery

namespace Session

/-- A session on some settings. -/
def start (settings : Settings) : Session := ⟨.ofSettings settings, [], [], [], []⟩

/-- Takes the next part off the script of an observer. -/
def takePart (observer : String) :
    List (String × List (List Action)) → List Action × List (String × List (List Action))
  | [] => ([], [])
  | (name, script) :: rest =>
    if name = observer then
      match script with
      | [] => ([], (name, []) :: rest)
      | part :: parts => (part, (name, parts) :: rest)
    else
      let (part, rest) := takePart observer rest
      (part, (name, script) :: rest)

/-- Adds an observer with its script, unless there is one of this name. -/
def addScript (observer : String) (script : List (List Action))
    (scripts : List (String × List (List Action))) : List (String × List (List Action)) :=
  if (scripts.lookup observer).isSome then scripts else scripts ++ [(observer, script)]

/-- Changes a setting; the observers are called next. -/
def assign (s : Session) (f : Field) (v : f.Carrier) : Session × List Task :=
  let (store, observers) := s.store.change f v
  ({ s with store := store }, [.deliver f v observers])

/-- Begins an action.  The answer is what it returns and what it leaves to be done. -/
def begin (s : Session) : Action → Session × Except Failure (Answer × List Task)
  | .set name d =>
    match Store.checkValue name d with
    | .error e => (s, .error e)
    | .ok ⟨f, v⟩ =>
      let (s, tasks) := s.assign f v
      (s, .ok (.done, tasks))
  | .get name =>
    match Field.ofName? name with
    | none => (s, .error (.noAttribute "Settings" name))
    | some f => (s, .ok (.value f (s.store.settings.get f), []))
  | .replace values =>
    match ofTable values with
    | .error findings => (s, .error (.invalid findings))
    | .ok settings => (s, .ok (.done, Field.all.map fun f => .assign f (settings.get f)))
  | .observe subscription name observer script =>
    let s := { s with scripts := addScript observer script s.scripts }
    match Field.ofName? name with
    | none => (s, .error (.fault (.config (.unknownSetting name))))
    | some f =>
      ({ s with store := s.store.observe f observer },
        .ok (.done, [.deliver f (s.store.settings.get f) [observer],
          .bind subscription f observer]))
  | .dispose subscription =>
    match s.subscriptions.lookup subscription with
    | none => (s, .ok (.noSubscription, []))
    | some (f, observer) => ({ s with store := s.store.forget f observer }, .ok (.done, []))
  | .snapshot copy =>
    ({ s with copies := (copy, s.store.settings) :: s.copies }, .ok (.done, []))
  | .showSnapshot copy =>
    match s.copies.lookup copy with
    | none => (s, .error (.missingKey copy))
    | some settings => (s, .ok (.settings settings, []))
  | .editSnapshot copy name d =>
    match s.copies.lookup copy with
    | none => (s, .error (.missingKey copy))
    | some settings =>
      match settings.assign name d with
      | .error findings => (s, .error (.invalid findings))
      | .ok settings => ({ s with copies := (copy, settings) :: s.copies }, .ok (.done, []))
  | .raise => (s, .error (.runtime "observer failed"))

/-- Does the first thing on the agenda.  The answer is what has to be done next because
of it. -/
def step (s : Session) : Task → Session × Except Failure (List Task)
  | .perform action =>
    match s.begin action with
    | (s, .ok (_, tasks)) => (s, .ok tasks)
    | (s, .error e) => (s, .error e)
  | .assign f v =>
    let (s, tasks) := s.assign f v
    (s, .ok tasks)
  | .deliver _ _ [] => (s, .ok [])
  | .deliver f v (observer :: observers) =>
    let (part, scripts) := takePart observer s.scripts
    ({ s with scripts := scripts, calls := ⟨observer, f, v⟩ :: s.calls },
      .ok (part.map .perform ++ [.deliver f v observers]))
  | .bind subscription f observer =>
    ({ s with subscriptions := (subscription, f, observer) :: s.subscriptions }, .ok [])

/-! ## The measure of a run -/

mutual

/-- The number of actions that an action can lead to, itself included. -/
def weight : Action → Nat
  | .replace _ => Field.all.length + 1
  | .observe _ _ _ script => weightScript script + 1
  | _ => 1

/-- The weight of a script. -/
def weightScript : List (List Action) → Nat
  | [] => 0
  | part :: parts => weightPart part + weightScript parts

/-- The weight of one part of a script. -/
def weightPart : List Action → Nat
  | [] => 0
  | action :: actions => weight action + weightPart actions

end

/-- The weight of all scripts. -/
def weightScripts (scripts : List (String × List (List Action))) : Nat :=
  total (scripts.map fun (_, script) => weightScript script)

/-- The actions that a task stands for. -/
def weightTask : Task → Nat
  | .perform action => weight action
  | .assign .. => 1
  | _ => 0

/-- The calls that a task stands for, and one for a task that makes calls or a
subscription. -/
def callsTask : Task → Nat
  | .deliver _ _ observers => observers.length + 1
  | .bind .. => 1
  | _ => 0

/-- The actions left in a session with an agenda, and the calls that stand on it. -/
def weigh (s : Session) (agenda : List Task) : Nat × Nat :=
  (weightScripts s.scripts + total (agenda.map weightTask), total (agenda.map callsTask))

theorem weight_pos (a : Action) :
  0 < weight a
  := by
  cases a <;> simp [weight]

theorem weightScripts_takePart (observer : String)
    (scripts : List (String × List (List Action))) :
  weightPart (takePart observer scripts).1 + weightScripts (takePart observer scripts).2
    = weightScripts scripts
  := by
  induction scripts with
  | nil => rfl
  | cons head rest ih =>
    obtain ⟨name, script⟩ := head
    unfold takePart
    split
    · cases script with
      | nil => simp [weightPart, weightScripts, weightScript]
      | cons part parts =>
        simp only [weightScripts, List.map_cons, total_cons, weightScript]
        omega
    · simp only [weightScripts, List.map_cons, total_cons] at ih ⊢
      omega

theorem weightScripts_addScript_le (observer : String) (script : List (List Action))
    (scripts : List (String × List (List Action))) :
  weightScripts (addScript observer script scripts) ≤ weightScripts scripts + weightScript script
  := by
  unfold addScript
  split
  · omega
  · simp [weightScripts]

theorem total_weightTask_perform (part : List Action) :
  total ((part.map Task.perform).map weightTask) = weightPart part
  := by
  induction part with
  | nil => rfl
  | cons a as ih => simp_all [weightPart, weightTask]

theorem total_callsTask_perform (part : List Action) :
  total ((part.map Task.perform).map callsTask) = 0
  := by
  induction part with
  | nil => rfl
  | cons a as ih => simp_all [callsTask]

/-- Beginning an action leaves less to be done than the action stood for. -/
theorem weight_begin_lt {s s' : Session} {a : Action} {answer : Answer} {tasks : List Task}
    (h : s.begin a = (s', .ok (answer, tasks))) :
  weightScripts s'.scripts + total (tasks.map weightTask) < weightScripts s.scripts + weight a
  := by
  cases a with
  | observe subscription name observer script =>
    simp only [begin] at h
    split at h
    · simp at h
    · have := weightScripts_addScript_le observer script s.scripts
      simp only [Prod.mk.injEq, Except.ok.injEq] at h
      obtain ⟨rfl, -, rfl⟩ := h
      simp only [List.map_cons, List.map_nil, weightTask, total_cons, total_nil, weight]
      omega
  | set name d =>
    simp only [begin] at h
    split at h
    · simp at h
    · simp only [assign, Prod.mk.injEq, Except.ok.injEq] at h
      obtain ⟨rfl, -, rfl⟩ := h
      simp [weightTask, weight]
  | replace values =>
    simp only [begin] at h
    split at h
    · simp at h
    · simp only [Prod.mk.injEq, Except.ok.injEq] at h
      obtain ⟨rfl, -, rfl⟩ := h
      simp [weightTask, weight, Field.all]
  | raise => simp [begin] at h
  | _ =>
    simp only [begin] at h
    repeat' split at h
    all_goals
      first
      | (simp only [Prod.mk.injEq, Except.ok.injEq] at h
         obtain ⟨rfl, -, rfl⟩ := h
         simp [weight])
      | simp at h

/-- Each step uses up an action, or keeps the actions and shortens the agenda. -/
theorem weigh_step_lt {s s' : Session} {task : Task} {tasks rest : List Task}
    (h : s.step task = (s', .ok tasks)) :
  Prod.Lex (· < ·) (· < ·) (weigh s' (tasks ++ rest)) (weigh s (task :: rest))
  := by
  cases task with
  | perform a =>
    apply Prod.Lex.left
    simp only [step] at h
    split at h
    · next h₁ =>
      simp only [Prod.mk.injEq, Except.ok.injEq] at h
      obtain ⟨rfl, rfl⟩ := h
      have := weight_begin_lt h₁
      simp only [List.map_append, total_append, List.map_cons, total_cons, weightTask]
      omega
    · simp at h
  | assign f v =>
    apply Prod.Lex.left
    simp only [step, assign, Prod.mk.injEq, Except.ok.injEq] at h
    obtain ⟨rfl, rfl⟩ := h
    simp [weightTask]
  | deliver f v observers =>
    cases observers with
    | nil =>
      simp only [step, Prod.mk.injEq, Except.ok.injEq] at h
      obtain ⟨rfl, rfl⟩ := h
      simp only [weigh, List.nil_append, List.map_cons, weightTask, total_cons, Nat.zero_add,
        callsTask]
      apply Prod.Lex.right
      simp
    | cons observer observers =>
      simp only [step, Prod.mk.injEq, Except.ok.injEq] at h
      obtain ⟨rfl, rfl⟩ := h
      have same := weightScripts_takePart observer s.scripts
      have first : (weigh { s with
            scripts := (takePart observer s.scripts).2, calls := ⟨observer, f, v⟩ :: s.calls }
            ((takePart observer s.scripts).1.map Task.perform ++ [.deliver f v observers]
              ++ rest)).1
          = (weigh s (.deliver f v (observer :: observers) :: rest)).1 := by
        simp only [weigh, List.map_append, total_append, List.map_cons, total_cons,
          weightTask, List.map_nil, total_nil, total_weightTask_perform]
        omega
      rw [Prod.lex_def]
      refine Or.inr ⟨first, ?_⟩
      simp only [weigh, List.map_append, total_append, List.map_cons, total_cons,
        callsTask, List.map_nil, total_nil, total_callsTask_perform, List.length_cons]
      omega
  | bind subscription f observer =>
    simp only [step, Prod.mk.injEq, Except.ok.injEq] at h
    obtain ⟨rfl, rfl⟩ := h
    simp only [weigh, List.nil_append, List.map_cons, weightTask, total_cons, Nat.zero_add,
      callsTask]
    apply Prod.Lex.right
    simp

/-- Does everything on the agenda, or stops at the first failure. -/
def run (s : Session) (agenda : List Task) : Session × Except Failure Unit :=
  match agenda with
  | [] => (s, .ok ())
  | task :: rest =>
    match h : s.step task with
    | (s, .error e) => (s, .error e)
    | (s, .ok tasks) => s.run (tasks ++ rest)
termination_by weigh s agenda
decreasing_by exact weigh_step_lt h

/-- Performs an action with all the calls that follow from it. -/
def perform (s : Session) (action : Action) : Session × Except Failure Answer :=
  match s.begin action with
  | (s, .error e) => (s, .error e)
  | (s, .ok (answer, tasks)) =>
    match s.run tasks with
    | (s, .ok ()) => (s, .ok answer)
    | (s, .error e) => (s, .error e)

end Session

end TypeCoverage.Settings
