import TypeCoverage.Proofs.Settings.Calm
import TypeCoverage.Proofs.Settings.Dispatching
import TypeCoverage.Proofs.Settings.Turns

/-!
# Sessions as they go on

`Session.performAll` performs actions one after another, whether they return or are broken
off by an observer that raises, and `Session.history` are the notes of all of them.

Calls that have been broken off are never made.  They stay below everything that comes later,
so that what every step keeps is kept from one action to the next (`Steady.perform`).  Where
no observer raises, nothing is left to be done after an action (`Steady.perform_of_calm`).
-/

namespace TypeCoverage.Settings

/-- Performs an action with all the calls that follow from it, and notes them. -/
def Watched.perform (base : Session) (w : Watched) (a : Action) : Watched :=
  (w.run base [⟨.perform a, none⟩]).1

namespace Session

/-- Performs some actions one after another. -/
def performAll (s : Session) (actions : List Action) : Session :=
  actions.foldl (fun s a => (s.perform a).1) s

/-- The session watched while some actions are performed on it. -/
def watchAll (s : Session) (actions : List Action) : Watched :=
  actions.foldl (Watched.perform s) ⟨s, []⟩

/-- What is noted while some actions are performed. -/
def history (s : Session) (actions : List Action) : List Note := (s.watchAll actions).log

theorem session_perform (base : Session) (w : Watched) (a : Action) :
  (w.perform base a).session = (w.session.perform a).1
  := by
  have ran := Watched.session_run base w [⟨.perform a, none⟩]
  rw [(perform_eq_run w.session a).1]
  exact (congrArg Prod.fst ran).symm

theorem watchAll_concat (s : Session) (actions : List Action) (a : Action) :
  s.watchAll (actions ++ [a]) = (s.watchAll actions).perform s a
  := by
  rw [watchAll, List.foldl_append]
  rfl

theorem session_watchAll (s : Session) (actions : List Action) :
  (s.watchAll actions).session = s.performAll actions
  := by
  induction actions using List.reverseRecOn with
  | nil => rfl
  | append_singleton actions a ih =>
    rw [watchAll_concat, session_perform, ih, performAll, performAll, List.foldl_append]
    rfl

end Session

/-! ### What is kept from one action to the next -/

/-- A watched session with what still has to be done, or will never be done. -/
structure Steady (base : Session) (w : Watched) (agenda : List Item) : Prop where
  kept : Kept base w agenda
  stacked : Stacked w agenda

namespace Steady

variable {base : Session} {w : Watched} {item : Item} {agenda rest : List Item}

theorem start (base : Session) :
  Steady base ⟨base, []⟩ []
  where
  kept :=
    { settings := rfl
      observers := (Kept.start base .raise).observers
      calls := rfl
      tells := (Kept.start base .raise).tells
      agrees := by simp
      owed := fun _ => rfl }
  stacked :=
    { once := by simp
      due := fun _ => rfl
      inTurn := by
        intro before cause e delivery after same
        simp at same }

/-- An action stands on the agenda without being due to anyone. -/
theorem cons_perform_iff {a : Action} :
  Steady base w (⟨.perform a, none⟩ :: rest) ↔ Steady base w rest
  := by
  constructor
  · intro steady
    exact {
      kept :=
        { settings := steady.kept.settings
          observers := steady.kept.observers
          calls := steady.kept.calls
          tells := steady.kept.tells
          agrees := fun item mem => steady.kept.agrees item (List.mem_cons_of_mem _ mem)
          owed := steady.kept.owed }
      stacked :=
        { once := fun item mem => steady.stacked.once item (List.mem_cons_of_mem _ mem)
          due := steady.stacked.due
          inTurn := steady.stacked.inTurn } }
  · intro steady
    exact {
      kept :=
        { settings := steady.kept.settings
          observers := steady.kept.observers
          calls := steady.kept.calls
          tells := steady.kept.tells
          agrees := List.forall_mem_cons.mpr ⟨trivial, steady.kept.agrees⟩
          owed := steady.kept.owed }
      stacked :=
        { once := List.forall_mem_cons.mpr ⟨trivial, steady.stacked.once⟩
          due := steady.stacked.due
          inTurn := steady.stacked.inTurn } }

/-- Every step keeps it. -/
theorem step (steady : Steady base w (item :: rest)) {w' : Watched} {items : List Item}
    (h : w.step base item = (w', .ok items)) :
  Steady base w' (items ++ rest)
  := ⟨steady.kept.step h, steady.stacked.step steady.kept h⟩

theorem of_error (steady : Steady base w agenda) {w' : Watched} {e : Failure}
    (h : w.step base item = (w', .error e)) :
  Steady base w' agenda
  where
  kept := steady.kept.of_error h
  stacked := by
    obtain ⟨-, log⟩ := Watched.step_of_error base h
    exact {
      once := steady.stacked.once
      due := by rw [log]; exact steady.stacked.due
      inTurn := by rw [log]; exact steady.stacked.inTurn }

/-- A whole run keeps it.  What stands below the agenda stays there. -/
theorem run {lost : List Item} (steady : Steady base w (agenda ++ lost)) :
  ∃ left, Steady base (w.run base agenda).1 (left ++ lost) ∧
    ((w.run base agenda).2 = .ok () → left = [])
  := by
  fun_induction Watched.run base w agenda with
  | case1 w => exact ⟨[], steady, fun _ => rfl⟩
  | case2 w item rest w' e h => exact ⟨_, steady.of_error h, fun done => by cases done⟩
  | case3 w item rest w' items h ih =>
    apply ih
    rw [List.append_assoc]
    exact steady.step h

theorem perform (steady : Steady base w rest) (a : Action) :
  ∃ left, Steady base (w.perform base a) (left ++ rest) ∧
    (w.session.Returns a → left = [])
  := by
  have ready : Steady base w ([⟨.perform a, none⟩] ++ rest) := cons_perform_iff.mpr steady
  obtain ⟨left, steady', done⟩ := ready.run
  refine ⟨left, steady', fun returns => done ?_⟩
  have ran := Watched.session_run base w [⟨.perform a, none⟩]
  rw [Session.Returns, (Session.perform_eq_run w.session a).2] at returns
  rw [← returns]
  exact (congrArg Prod.snd ran).symm

end Steady

theorem Session.steady_watchAll (s : Session) (actions : List Action) :
  ∃ lost, Steady s (s.watchAll actions) lost
  := by
  induction actions using List.reverseRecOn with
  | nil => exact ⟨[], Steady.start s⟩
  | append_singleton actions a ih =>
    obtain ⟨lost, steady⟩ := ih
    obtain ⟨left, steady', -⟩ := steady.perform a
    rw [watchAll_concat]
    exact ⟨left ++ lost, steady'⟩

namespace Session

theorem tells_history (s : Session) (actions : List Action) :
  s.Tells (s.history actions)
  := by
  obtain ⟨lost, steady⟩ := s.steady_watchAll actions
  exact steady.kept.tells

theorem observers_performAll (s : Session) (actions : List Action) :
  (s.performAll actions).store.observers =
    (s.entriesAfter (s.history actions)).map Entry.pair
  := by
  obtain ⟨lost, steady⟩ := s.steady_watchAll actions
  rw [← session_watchAll]
  exact steady.kept.observers

theorem history_prefix (s : Session) (actions later : List Action) :
  s.history actions <+: s.history (actions ++ later)
  := by
  induction later using List.reverseRecOn with
  | nil => simp
  | append_singleton later a ih =>
    apply ih.trans
    rw [← List.append_assoc, history, history, watchAll_concat]
    apply Watched.log_prefix_run

end Session

/-! ### Observers that do not raise -/

/-- An action that registers no observer that raises; it may fail itself. -/
def Action.BringsCalm : Action → Prop
  | .observe _ _ _ script => scriptIsCalm script
  | _ => True

namespace Session

variable {s : Session} {a : Action}

/-- An action that brings no observer that raises leaves none, and nothing that fails is left
to be done. -/
theorem isCalm_begin_of_bringsCalm (calm : s.IsCalm) (brings : a.BringsCalm) :
  (s.begin a).1.IsCalm ∧
    ∀ answer tasks, (s.begin a).2 = .ok (answer, tasks) → ∀ task ∈ tasks, task.IsCalm
  := by
  cases a with
  | observe subscription name observer script =>
    have added := addScript_of calm observer brings
    rw [begin]
    simp only
    split
    · exact ⟨added, fun _ _ begun => by cases begun⟩
    · refine ⟨added, fun answer tasks begun => ?_⟩
      cases begun
      simp [Task.IsCalm]
  | set | replace =>
    rw [begin]
    split
    · exact ⟨calm, fun _ _ begun => by cases begun⟩
    · refine ⟨calm, fun answer tasks begun => ?_⟩
      cases begun
      simp [Task.IsCalm]
  | get | dispose | showSnapshot =>
    rw [begin]
    split <;> exact ⟨calm, fun _ _ begun => by cases begun <;> simp⟩
  | snapshot => exact ⟨calm, fun _ _ begun => by cases begun; simp⟩
  | editSnapshot =>
    rw [begin]
    split
    · exact ⟨calm, fun _ _ begun => by cases begun⟩
    · split <;> exact ⟨calm, fun _ _ begun => by cases begun <;> simp⟩
  | raise => exact ⟨calm, fun _ _ begun => by cases begun⟩

theorem isCalm_run {agenda : List Task} (calm : s.IsCalm) (quiet : ∀ task ∈ agenda, task.IsCalm) :
  (s.run agenda).1.IsCalm
  := by
  induction s, agenda using run.induct with
  | case1 s => rwa [run]
  | case2 s task rest s' e h =>
    obtain ⟨_, _, same, -⟩ := isCalm_step calm (quiet task List.mem_cons_self)
    rw [h] at same
    cases same
  | case3 s task rest s' tasks h ih =>
    obtain ⟨_, _, same, calm', quiet'⟩ := isCalm_step calm (quiet task List.mem_cons_self)
    rw [h] at same
    cases same
    rw [run_cons_of_ok rest h]
    apply ih calm'
    intro next mem
    rcases List.mem_append.mp mem with mem | mem
    · exact quiet' next mem
    · exact quiet next (List.mem_cons_of_mem _ mem)

/-- Where no observer raises, an action is refused before it has done anything, or it returns. -/
theorem refused_or_returns (calm : s.IsCalm) (brings : a.BringsCalm) :
  (s.perform a).1.IsCalm ∧ ((∃ s' e, s.begin a = (s', .error e)) ∨ s.Returns a)
  := by
  obtain ⟨calm', quiet⟩ := isCalm_begin_of_bringsCalm calm brings
  rw [Returns, perform]
  rcases begun : s.begin a with ⟨s', e | ⟨answer, tasks⟩⟩
  · rw [begun] at calm'
    exact ⟨calm', Or.inl ⟨s', e, rfl⟩⟩
  · rw [begun] at calm' quiet
    have quiet := quiet answer tasks rfl
    have calm'' := isCalm_run calm' quiet
    have ran := run_of_isCalm calm' quiet
    dsimp only
    rcases done : s'.run tasks with ⟨s'', e | _⟩
    · rw [done] at ran
      cases ran
    · rw [done] at calm''
      exact ⟨calm'', Or.inr ⟨answer, rfl⟩⟩

theorem isCalm_performAll (calm : s.IsCalm) {actions : List Action}
    (brings : ∀ a ∈ actions, a.BringsCalm) :
  (s.performAll actions).IsCalm
  := by
  induction actions generalizing s with
  | nil => exact calm
  | cons a actions ih =>
    rw [List.forall_mem_cons] at brings
    exact ih (refused_or_returns calm brings.1).1 brings.2

end Session

/-- Where no observer raises, nothing is left to be done after an action. -/
theorem Steady.perform_of_calm {base : Session} {w : Watched} {rest : List Item}
    (steady : Steady base w rest) (calm : w.session.IsCalm) {a : Action} (brings : a.BringsCalm) :
  Steady base (w.perform base a) rest
  := by
  rcases (Session.refused_or_returns calm brings).2 with ⟨s', e, begun⟩ | returns
  · have failed : w.step base ⟨.perform a, none⟩ = ({ w with session := s' }, .error e) := by
      rw [Watched.step, Session.step, begun]
    have ran : w.perform base a = { w with session := s' } := by
      rw [Watched.perform, Watched.run]
      split <;> simp_all
    rw [ran]
    exact steady.of_error failed
  · obtain ⟨left, steady', done⟩ := steady.perform a
    rwa [done returns] at steady'

theorem Session.steady_watchAll_of_calm {s : Session} (calm : s.IsCalm) {actions : List Action}
    (brings : ∀ a ∈ actions, a.BringsCalm) :
  Steady s (s.watchAll actions) []
  := by
  induction actions using List.reverseRecOn with
  | nil => exact Steady.start s
  | append_singleton actions a ih =>
    rw [List.forall_mem_append, List.forall_mem_singleton] at brings
    rw [watchAll_concat]
    apply (ih brings.1).perform_of_calm _ brings.2
    rw [session_watchAll]
    exact isCalm_performAll calm brings.1

/-! ### Runs on fixed inputs -/

namespace Session

/-- A run that ends after at most so many tasks.  It can be evaluated. -/
def runWithin : Nat → Session → List Task → Option (Session × Except Failure Unit)
  | _, s, [] => some (s, .ok ())
  | 0, _, _ :: _ => none
  | n + 1, s, task :: rest =>
    match s.step task with
    | (s, .error e) => some (s, .error e)
    | (s, .ok tasks) => runWithin n s (tasks ++ rest)

theorem run_of_runWithin {n : Nat} {s : Session} {agenda : List Task}
    {r : Session × Except Failure Unit} (ends : runWithin n s agenda = some r) :
  s.run agenda = r
  := by
  induction n generalizing s agenda with
  | zero =>
    cases agenda with
    | nil =>
      rw [run]
      exact Option.some.inj ends
    | cons => cases ends
  | succ n ih =>
    cases agenda with
    | nil =>
      rw [run]
      exact Option.some.inj ends
    | cons task rest =>
      rw [runWithin] at ends
      split at ends
      · next failed =>
        rw [run_cons_of_error rest failed]
        exact Option.some.inj ends
      · next done =>
        rw [run_cons_of_ok rest done]
        exact ih ends

/-- The session after some actions, if each of them ends after at most so many tasks. -/
def performAllWithin (n : Nat) : Session → List Action → Option Session
  | s, [] => some s
  | s, a :: actions => (runWithin n s [.perform a]).bind fun r => performAllWithin n r.1 actions

theorem performAll_of_within {n : Nat} {s s' : Session} {actions : List Action}
    (ends : performAllWithin n s actions = some s') :
  s.performAll actions = s'
  := by
  induction actions generalizing s with
  | nil => exact Option.some.inj ends
  | cons a actions ih =>
    obtain ⟨r, ran, rest⟩ := Option.bind_eq_some_iff.mp ends
    rw [← ih rest, ← run_of_runWithin ran, ← (perform_eq_run s a).1]
    rfl

end Session

end TypeCoverage.Settings
