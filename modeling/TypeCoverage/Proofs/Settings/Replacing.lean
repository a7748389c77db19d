import TypeCoverage.Proofs.Settings.History

/-!
# Replacing all settings

A replacement assigns the settings one after another, in the order in which they are declared,
and calls the observers of each before it assigns the next.  On its way the settings are the old
ones with the values of the new ones for the fields up to some field (`Settings.adopt`,
`Field.upTo`).

`Session.Reaches` relates the states of a session on the way of a run, and `Session.Shows` says
what settings an observer finds on the way of an action.  If no observer assigns settings
(`Session.SparesSettings`), every step of a replacement keeps `Replacing`.  From this follows
`Session.replaces`: what observers find, what is left when one of them raises, and that nobody
finds anything but the new settings if and only if no field changes after one whose observers
are called.
-/

namespace TypeCoverage

/-! ### Settings with some values of others -/

/-- The fields up to one, in the order of declaration. -/
def Field.upTo (f : Field) : List Field := Field.all.takeWhile (· ≠ f) ++ [f]

theorem Field.not_mem_of_cut {f : Field} {before after : List Field}
    (cut : Field.all = before ++ f :: after) :
  f ∉ before
  := by
  have distinct := Field.nodup_all
  rw [cut, List.nodup_append] at distinct
  intro mem
  exact distinct.2.2 f mem f List.mem_cons_self rfl

theorem Field.upTo_eq {f : Field} {before after : List Field}
    (cut : Field.all = before ++ f :: after) :
  f.upTo = before ++ [f]
  := by
  have others : ∀ g ∈ before, g ≠ f := by
    rintro g mem rfl
    exact Field.not_mem_of_cut cut mem
  rw [upTo, cut, List.takeWhile_append_of_pos (by simpa using others),
    List.takeWhile_cons_of_neg (by simp), List.append_nil]

/-- What stands before a field up to another one stands before it among all. -/
theorem Field.exists_cut {f g : Field} {before between : List Field}
    (cut : f.upTo = before ++ g :: between) :
  ∃ after, Field.all = before ++ g :: after
  := by
  obtain ⟨first, after, whole⟩ := List.append_of_mem (Field.mem_all f)
  use between ++ after
  rw [whole, ← List.singleton_append, ← List.append_assoc, ← Field.upTo_eq whole, cut,
    List.append_assoc, List.cons_append]

theorem Field.upTo_subset {f g : Field} (mem : g ∈ f.upTo) :
  g.upTo ⊆ f.upTo
  := by
  obtain ⟨before, between, cut⟩ := List.append_of_mem mem
  obtain ⟨after, whole⟩ := Field.exists_cut cut
  rw [Field.upTo_eq whole, cut, List.append_cons before g between]
  apply List.subset_append_left

namespace Settings

/-- The settings with the values of others for some fields. -/
def adopt (s t : Settings) (fields : List Field) : Settings :=
  fields.foldl (fun s f => s.set f (t.get f)) s

theorem adopt_concat (s t : Settings) (fields : List Field) (f : Field) :
  s.adopt t (fields ++ [f]) = (s.adopt t fields).set f (t.get f)
  := by
  rw [adopt, List.foldl_append]
  rfl

theorem get_adopt (s t : Settings) (fields : List Field) (f : Field) :
  (s.adopt t fields).get f = if f ∈ fields then t.get f else s.get f
  := by
  induction fields using List.reverseRecOn with
  | nil => rfl
  | append_singleton fields g ih =>
    rw [adopt_concat]
    by_cases same : f = g
    · subst same
      simp
    · rw [get_set_of_ne _ _ same, ih]
      simp [same]

theorem adopt_eq_iff {s t : Settings} {fields : List Field} :
  s.adopt t fields = t ↔ ∀ f ∉ fields, s.get f = t.get f
  := by
  constructor
  · intro same f other
    rw [← same, get_adopt, if_neg other]
  · intro same
    apply eq_of_get_eq
    intro f
    rw [get_adopt]
    split
    · rfl
    · next other => exact same f other

theorem adopt_all (s t : Settings) :
  s.adopt t Field.all = t
  := adopt_eq_iff.mpr fun f other => absurd (Field.mem_all f) other

/-! ### Observers that assign nothing -/

mutual

/-- An action that assigns no setting, and neither do those of an observer that it registers. -/
def Action.Spares : Action → Prop
  | .set .. => False
  | .replace _ => False
  | .observe _ _ _ script => scriptSpares script
  | _ => True

/-- No part of a script assigns a setting. -/
def scriptSpares : List (List Action) → Prop
  | [] => True
  | part :: parts => partSpares part ∧ scriptSpares parts

/-- No action of a part assigns a setting. -/
def partSpares : List Action → Prop
  | [] => True
  | action :: actions => action.Spares ∧ partSpares actions

end

theorem partSpares_iff (part : List Action) :
  partSpares part ↔ ∀ a ∈ part, a.Spares
  := by
  induction part with
  | nil => simp [partSpares]
  | cons a part ih => simp [partSpares, ih]

/-- A task that assigns no setting. -/
def Task.Spares : Task → Prop
  | .perform a => a.Spares
  | .assign .. => False
  | _ => True

namespace Session

/-- No observer assigns a setting. -/
def SparesSettings (s : Session) : Prop :=
  ∀ observer script, (observer, script) ∈ s.scripts → scriptSpares script

/-- An action that assigns nothing leaves the settings, and nothing to be done that assigns. -/
theorem begin_of_spares {s s' : Session} (spares : s.SparesSettings) {a : Action}
    (sparing : a.Spares) {answer : Answer} {tasks : List Task}
    (begun : s.begin a = (s', .ok (answer, tasks))) :
  s'.store.settings = s.store.settings ∧ s'.SparesSettings ∧ ∀ task ∈ tasks, task.Spares
  := by
  cases a with
  | set | replace => cases sparing
  | observe subscription name observer script =>
    have added := addScript_of spares observer sparing
    simp only [begin] at begun
    split at begun
    · cases begun
    · cases begun
      exact ⟨rfl, added, by simp [Task.Spares]⟩
  | get | dispose | showSnapshot | snapshot | editSnapshot =>
    simp only [begin] at begun
    repeat' split at begun
    all_goals cases begun <;> exact ⟨rfl, spares, by simp⟩
  | raise => cases begun

theorem step_of_spares {s s' : Session} (spares : s.SparesSettings) {task : Task}
    (sparing : task.Spares) {tasks : List Task} (done : s.step task = (s', .ok tasks)) :
  s'.store.settings = s.store.settings ∧ s'.SparesSettings ∧ ∀ next ∈ tasks, next.Spares
  := by
  cases task with
  | assign => cases sparing
  | bind =>
    cases done
    exact ⟨rfl, spares, by simp⟩
  | perform a =>
    simp only [step] at done
    split at done
    · next begun =>
      cases done
      exact begin_of_spares spares sparing begun
    · cases done
  | deliver f v observers =>
    cases observers with
    | nil =>
      cases done
      exact ⟨rfl, spares, by simp⟩
    | cons observer observers =>
      obtain ⟨part, kept⟩ := takePart_of (P := partSpares) trivial (fun _ _ sparing => sparing)
        observer spares
      cases done
      refine ⟨rfl, kept, fun next mem => ?_⟩
      rw [partSpares_iff] at part
      rcases List.mem_append.mp mem with mem | mem
      · obtain ⟨a, known, rfl⟩ := List.mem_map.mp mem
        exact part a known
      · obtain rfl := List.mem_singleton.mp mem
        trivial

/-! ### States on the way of a run -/

/-- A session with what it has to do comes to another one with what is then left to be done. -/
inductive Reaches : Session → List Task → Session → List Task → Prop
  | here (s : Session) (agenda : List Task) : Reaches s agenda s agenda
  | step {s s' s'' : Session} {task : Task} {tasks rest left : List Task}
    (done : s.step task = (s', .ok tasks)) (onward : Reaches s' (tasks ++ rest) s'' left) :
    Reaches s (task :: rest) s'' left

namespace Reaches

variable {s s' s'' : Session} {agenda left : List Task}

theorem trans {between : List Task} (first : Reaches s agenda s' between)
    (second : Reaches s' between s'' left) :
  Reaches s agenda s'' left
  := by
  induction first with
  | here => exact second
  | step done _ ih => exact step done (ih second)

/-- What every step keeps is kept on the whole way. -/
theorem keeps {P : Session → List Task → Prop}
    (kept : ∀ {s s' task tasks rest}, s.step task = (s', .ok tasks) → P s (task :: rest) →
      P s' (tasks ++ rest))
    (reached : Reaches s agenda s' left) (start : P s agenda) :
  P s' left
  := by
  induction reached with
  | here => exact start
  | step done _ ih => exact ih (kept done start)

end Reaches

/-- A run comes to its end, or to a task that fails. -/
theorem exists_reaches (s : Session) (agenda : List Task) :
  ∃ s' left, Reaches s agenda s' left ∧ (s.run agenda).1.store = s'.store ∧
    ((s.run agenda).2 = .ok () ∧ left = [] ∨ (s.run agenda).2 ≠ .ok () ∧
      ∃ task rest e, left = task :: rest ∧ (s'.step task).2 = .error e)
  := by
  induction s, agenda using run.induct with
  | case1 s =>
    rw [run]
    exact ⟨s, [], .here .., rfl, Or.inl ⟨rfl, rfl⟩⟩
  | case2 s task rest s' e failed =>
    rw [run_cons_of_error rest failed]
    refine ⟨s, _, .here .., (step_of_error failed).1, Or.inr ⟨by simp, task, rest, e, rfl, ?_⟩⟩
    rw [failed]
  | case3 s task rest s' tasks done ih =>
    obtain ⟨s'', left, reached, ended⟩ := ih
    rw [run_cons_of_ok rest done]
    exact ⟨s'', left, .step done reached, ended⟩

end Session

/-- An observer is about to be called, or to act. -/
def Task.IsOfObserver : Task → Prop
  | .perform _ => True
  | .deliver _ _ (_ :: _) => True
  | _ => False

/-- Nobody is left to be called. -/
def Task.IsIdle : Task → Prop
  | .deliver _ _ [] => True
  | _ => False

/-- On the way of an action, an observer that is called or acts finds some settings. -/
def Session.Shows (s : Session) (a : Action) (found : Settings) : Prop :=
  ∃ begun answer tasks s' task rest, s.begin a = (begun, .ok (answer, tasks)) ∧
    Session.Reaches begun tasks s' (task :: rest) ∧ task.IsOfObserver ∧
      s'.store.settings = found

/-! ### What every step of a replacement keeps -/

/-- The fields are to be assigned the values of some settings. -/
def assignments (t : Settings) (fields : List Field) : List Task :=
  fields.map fun f => .assign f (t.get f)

/-- On the whole way of a replacement some fields have been assigned, and the others still have
to be, after whatever comes of the last assignment.  What is kept by whatever comes of an
assignment and by the assignments themselves, holds on the whole way. -/
theorem Session.Reaches.of_assignments {base s : Session} {t : Settings} {agenda : List Task}
    {P : Session → List Field → List Task → Prop} (start : P base [] [])
    (goesOn : ∀ {s s' done task current tasks}, P s done (task :: current) →
      s.step task = (s', .ok tasks) → P s' done (tasks ++ current))
    (assigns : ∀ {s done f}, P s done [] → f ∉ done →
      P (s.assign f (t.get f)).1 (done ++ [f]) (s.assign f (t.get f)).2)
    (reached : Reaches base (assignments t Field.all) s agenda) :
  ∃ done todo current, Field.all = done ++ todo ∧ agenda = current ++ assignments t todo ∧
    P s done current
  := by
  let Q (s : Session) (agenda : List Task) : Prop :=
    ∃ done todo current, Field.all = done ++ todo ∧ agenda = current ++ assignments t todo ∧
      P s done current
  refine reached.keeps (P := Q) ?_ ⟨[], Field.all, [], rfl, rfl, start⟩
  rintro s s' task tasks rest did ⟨done, todo, current, cut, agenda, holds⟩
  -- What is done comes of the last assignment, or it is the next one.
  cases current with
  | cons first current =>
    obtain ⟨rfl, rfl⟩ := List.cons.inj agenda
    exact ⟨done, todo, tasks ++ current, cut, (List.append_assoc ..).symm, goesOn holds did⟩
  | nil =>
    cases todo with
    | nil => cases agenda
    | cons f todo =>
      obtain ⟨rfl, rfl⟩ := List.cons.inj agenda
      have assigned := assigns holds (Field.not_mem_of_cut cut)
      cases did
      refine ⟨done ++ [f], todo, _, ?_, rfl, assigned⟩
      rw [cut, List.append_assoc, List.singleton_append]

/-- A field changes and has observers. -/
def Session.Announces (base : Session) (t : Settings) (f : Field) : Prop :=
  base.store.settings.get f ≠ t.get f ∧ base.store.observersOf f ≠ []

/-- A session on the way of a replacement, when some fields have been assigned and some tasks
stand before the next assignment. -/
structure Replacing (base : Session) (t : Settings) (s : Session) (done : List Field)
    (current : List Task) : Prop where
  settings : s.store.settings = base.store.settings.adopt t done
  spares : s.SparesSettings
  sparing : ∀ task ∈ current, task.Spares
  /-- Somebody is called or acts only if the last assignment is of a new value. -/
  changed : (∀ task ∈ current, task.IsIdle) ∨
    ∃ before f, done = before ++ [f] ∧ base.store.settings.get f ≠ t.get f
  /-- Nobody has been called yet, or for a field that had observers from the start. -/
  announced : ((∀ task ∈ current, task.IsIdle) ∧ s.store.observers = base.store.observers) ∨
    ∃ f ∈ done, base.Announces t f

namespace Replacing

variable {base s s' : Session} {t : Settings} {done : List Field} {task : Task}
  {current tasks : List Task}

/-- Nothing comes of a task that calls nobody. -/
theorem step_of_isIdle (idle : task.IsIdle) (did : s.step task = (s', .ok tasks)) :
  s' = s ∧ tasks = []
  := by
  cases task with
  | deliver f v observers =>
    cases observers with
    | nil =>
      cases did
      exact ⟨rfl, rfl⟩
    | cons => cases idle
  | perform | assign | bind => cases idle

/-- What is done before the next assignment keeps it. -/
theorem step (replacing : Replacing base t s done (task :: current))
    (did : s.step task = (s', .ok tasks)) :
  Replacing base t s' done (tasks ++ current)
  := by
  obtain ⟨sparing, others⟩ := List.forall_mem_cons.mp replacing.sparing
  obtain ⟨settings, spares, next⟩ := Session.step_of_spares replacing.spares sparing did
  constructor
  case settings => rw [settings, replacing.settings]
  case spares => exact spares
  case sparing => exact List.forall_mem_append.mpr ⟨next, others⟩
  case changed =>
    apply replacing.changed.imp_left
    intro idle
    rw [List.forall_mem_cons] at idle
    rw [(step_of_isIdle idle.1 did).2]
    exact idle.2
  case announced =>
    apply replacing.announced.imp_left
    rintro ⟨idle, observers⟩
    rw [List.forall_mem_cons] at idle
    obtain ⟨rfl, rfl⟩ := step_of_isIdle idle.1 did
    exact ⟨idle.2, observers⟩

/-- The next assignment keeps it. -/
theorem assign (replacing : Replacing base t s done []) {f : Field} (next : f ∉ done) :
  Replacing base t (s.assign f (t.get f)).1 (done ++ [f]) (s.assign f (t.get f)).2
  := by
  have before : s.store.settings.get f = base.store.settings.get f := by
    rw [replacing.settings, get_adopt, if_neg next]
  have told : (s.assign f (t.get f)).2 =
      [.deliver f (t.get f) (if t.get f = base.store.settings.get f then []
        else s.store.observersOf f)] := by
    rw [← before]
    rfl
  constructor
  case settings =>
    rw [adopt_concat, ← replacing.settings]
    rfl
  case spares => exact replacing.spares
  case sparing => simp [told, Task.Spares]
  case changed =>
    rw [told]
    by_cases same : t.get f = base.store.settings.get f
    · simp [same, Task.IsIdle]
    · exact Or.inr ⟨done, f, rfl, Ne.symm same⟩
  case announced =>
    rcases replacing.announced with ⟨-, observers⟩ | ⟨g, mem, announces⟩
    · by_cases announces : base.Announces t f
      · exact Or.inr ⟨f, List.mem_append_right _ List.mem_cons_self, announces⟩
      · have nobody : (if t.get f = base.store.settings.get f then []
            else s.store.observersOf f) = [] := by
          -- Nobody has been called yet, so that the observers are those of the start.
          have unheard : s.store.observersOf f = base.store.observersOf f := by
            rw [Store.observersOf, observers, Store.observersOf]
          rw [Session.Announces, not_and, not_ne_iff] at announces
          split
          · rfl
          · next other => rw [unheard, announces (Ne.symm other)]
        rw [told, nobody]
        exact Or.inl ⟨by simp [Task.IsIdle], observers⟩
    · exact Or.inr ⟨g, List.mem_append_left _ mem, announces⟩

/-- It holds on the whole way of a replacement. -/
theorem of_reaches {agenda : List Task} (spares : base.SparesSettings)
    (reached : Session.Reaches base (assignments t Field.all) s agenda) :
  ∃ done todo current, Field.all = done ++ todo ∧ agenda = current ++ assignments t todo ∧
    Replacing base t s done current
  := by
  apply reached.of_assignments
  · exact ⟨rfl, spares, by simp, by simp, by simp⟩
  · exact step
  · exact fun replacing next => replacing.assign next

/-- An observer finds the new values of the fields up to one that changes, and among these is one
that has had observers from the start. -/
theorem found (spares : base.SparesSettings) {rest : List Task}
    (reached : Session.Reaches base (assignments t Field.all) s (task :: rest))
    (observer : task.IsOfObserver) :
  ∃ f, base.store.settings.get f ≠ t.get f ∧
    s.store.settings = base.store.settings.adopt t f.upTo ∧ ∃ g ∈ f.upTo, base.Announces t g
  := by
  obtain ⟨done, todo, current, cut, agenda, replacing⟩ := of_reaches spares reached
  have mem : task ∈ current := by
    cases current with
    | cons => exact (List.cons.inj agenda).1 ▸ List.mem_cons_self
    | nil =>
      cases todo with
      | nil => cases agenda
      | cons =>
        obtain ⟨rfl, -⟩ := List.cons.inj agenda
        cases observer
  have busy : ¬ ∀ task ∈ current, task.IsIdle := by
    intro idle
    have := idle task mem
    cases task with
    | deliver f v observers => cases observers <;> contradiction
    | perform | assign | bind => cases this
  obtain ⟨before, f, rfl, changes⟩ := replacing.changed.resolve_left busy
  obtain ⟨g, known, announces⟩ := replacing.announced.resolve_left fun quiet => busy quiet.1
  rw [List.append_assoc] at cut
  have upTo := Field.upTo_eq cut
  exact ⟨f, changes, by rw [replacing.settings, upTo], g, by rwa [upTo], announces⟩

end Replacing

/-! ### What observers find -/

namespace Session

variable {s : Session} {values : Members} {t : Settings}

theorem step_assign {f : Field} {v : f.Carrier} {observers : List String}
    (told : (s.store.change f v).2 = observers) :
  s.step (.assign f v) = ((s.assign f v).1, .ok [.deliver f v observers])
  := by
  subst told
  rfl

theorem begin_replace (valid : ofTable values = .ok t) :
  s.begin (.replace values) = (s, .ok (.done, assignments t Field.all))
  := by
  rw [begin, valid]
  rfl

theorem perform_replace (valid : ofTable values = .ok t) :
  (s.perform (.replace values)).1 = (s.run (assignments t Field.all)).1 ∧
    (s.Returns (.replace values) ↔ (s.run (assignments t Field.all)).2 = .ok ())
  := by
  rw [Returns, perform, begin_replace valid]
  dsimp only
  cases ran : s.run (assignments t Field.all) with
  | mk s' result => cases result <;> simp

theorem shows_replace_iff (valid : ofTable values = .ok t) {found : Settings} :
  s.Shows (.replace values) found ↔
    ∃ s' task rest, Reaches s (assignments t Field.all) s' (task :: rest) ∧ task.IsOfObserver ∧
      s'.store.settings = found
  := by
  rw [Shows, begin_replace valid]
  constructor
  · rintro ⟨_, _, _, s', task, rest, same, shown⟩
    cases same
    exact ⟨s', task, rest, shown⟩
  · rintro ⟨s', task, rest, shown⟩
    exact ⟨_, _, _, s', task, rest, rfl, shown⟩

/-- Fields without observers, and those that keep their values, are assigned in silence. -/
theorem reaches_of_not_announces {fields : List Field} (distinct : fields.Nodup)
    (silent : ∀ f ∈ fields, ¬ s.Announces t f) (rest : List Field) :
  ∃ s', Reaches s (assignments t (fields ++ rest)) s' (assignments t rest) ∧
    s'.store = ⟨s.store.settings.adopt t fields, s.store.observers⟩
  := by
  induction fields using List.reverseRecOn generalizing rest with
  | nil => exact ⟨s, .here .., rfl⟩
  | append_singleton fields f ih =>
    rw [List.nodup_append] at distinct
    rw [List.forall_mem_append, List.forall_mem_singleton] at silent
    obtain ⟨s', reached, store⟩ := ih distinct.1 silent.1 (f :: rest)
    have new : f ∉ fields := fun mem => distinct.2.2 f mem f List.mem_cons_self rfl
    have nobody : (s'.store.change f (t.get f)).2 = [] := by
      rw [store, Store.change, get_adopt, if_neg new]
      have unheard := silent.2
      rw [Announces, not_and, not_ne_iff] at unheard
      split
      · rfl
      · next other => exact unheard (Ne.symm other)
    rw [List.append_assoc, List.singleton_append]
    refine ⟨(s'.assign f (t.get f)).1, ?_, ?_⟩
    · apply reached.trans
      apply Reaches.step (step_assign nobody)
      have told : (s'.assign f (t.get f)).1.step (.deliver f (t.get f) []) = (_, .ok []) := rfl
      apply Reaches.step told
      exact Reaches.here ..
    · rw [adopt_concat, assign, store]
      rfl

/-- The first field to be announced is announced before the later ones have been assigned. -/
theorem shows_first (valid : ofTable values = .ok t) {f : Field} {before after : List Field}
    (cut : Field.all = before ++ f :: after) (first : ∀ g ∈ before, ¬ s.Announces t g)
    (announces : s.Announces t f) :
  s.Shows (.replace values) (s.store.settings.adopt t f.upTo)
  := by
  have distinct : before.Nodup := by
    have distinct := Field.nodup_all
    rw [cut, List.nodup_append] at distinct
    exact distinct.1
  obtain ⟨s', reached, store⟩ := reaches_of_not_announces distinct first (f :: after)
  have told : (s'.store.change f (t.get f)).2 = s.store.observersOf f := by
    rw [store, Store.change, get_adopt, if_neg (Field.not_mem_of_cut cut),
      if_neg (Ne.symm announces.1)]
    rfl
  rw [← cut] at reached
  rw [shows_replace_iff valid]
  refine ⟨_, _, _, reached.trans (.step (step_assign told) (.here ..)), ?_, ?_⟩
  · cases observers : s.store.observersOf f with
    | nil => exact absurd observers announces.2
    | cons => trivial
  · rw [Field.upTo_eq cut, adopt_concat, assign, store]
    rfl

/-- Of the fields that are announced, there is a first one. -/
theorem exists_first {f : Field} (announces : s.Announces t f) :
  ∃ before g after, Field.all = before ++ g :: after ∧ s.Announces t g ∧
    (∀ d ∈ before, ¬ s.Announces t d) ∧ g ∈ f.upTo
  := by
  classical
  have found : (f.upTo.find? fun g => s.Announces t g).isSome := by
    rw [List.find?_isSome]
    exact ⟨f, by simp [Field.upTo], by simpa using announces⟩
  obtain ⟨g, found⟩ := Option.isSome_iff_exists.mp found
  obtain ⟨holds, before, between, cut, earlier⟩ := List.find?_eq_some_iff_append.mp found
  obtain ⟨after, whole⟩ := Field.exists_cut cut
  exact ⟨before, g, after, whole, by simpa using holds, by simpa using earlier,
    List.mem_of_find?_eq_some found⟩

/-- The end of a replacement: all fields are assigned, or an observer has raised. -/
theorem replace_ends (valid : ofTable values = .ok t) (spares : s.SparesSettings) :
  s.Returns (.replace values) ∧ (s.perform (.replace values)).1.store.settings = t ∨
    ¬ s.Returns (.replace values) ∧
      s.Shows (.replace values) (s.perform (.replace values)).1.store.settings
  := by
  obtain ⟨s', left, reached, store, ends⟩ := s.exists_reaches (assignments t Field.all)
  obtain ⟨performed, returns⟩ := perform_replace (s := s) valid
  rw [performed, store, returns, shows_replace_iff valid]
  rcases ends with ⟨ended, rfl⟩ | ⟨failed, task, rest, e, rfl, refused⟩
  · obtain ⟨done, todo, current, cut, nothing, replacing⟩ := Replacing.of_reaches spares reached
    obtain ⟨-, nothing⟩ := List.append_eq_nil_iff.mp nothing.symm
    obtain rfl := List.map_eq_nil_iff.mp nothing
    rw [List.append_nil] at cut
    exact Or.inl ⟨ended, by rw [replacing.settings, ← cut, adopt_all]⟩
  · refine Or.inr ⟨failed, s', task, rest, reached, ?_, rfl⟩
    cases task with
    | perform => trivial
    | deliver f v observers => cases observers <;> cases refused
    | assign | bind => cases refused

/-- What is certain of a replacement whose observers assign nothing. -/
structure Replaces (s : Session) (values : Members) (t : Settings) : Prop where
  /-- An observer finds the old settings with the new values of the fields up to one that
  changes. -/
  shown : ∀ found, s.Shows (.replace values) found →
    ∃ f, s.store.settings.get f ≠ t.get f ∧ found = s.store.settings.adopt t f.upTo
  /-- The observers of the first field that changes and has any find them. -/
  announced : ∀ f, s.Announces t f → (∀ g ∈ f.upTo, g ≠ f → ¬ s.Announces t g) →
    s.Shows (.replace values) (s.store.settings.adopt t f.upTo)
  /-- If the replacement returns, the settings are the new ones. -/
  returned : s.Returns (.replace values) → (s.perform (.replace values)).1.store.settings = t
  /-- If an observer raises, the settings stay as it found them. -/
  brokenOff : ¬ s.Returns (.replace values) →
    ∃ f, s.store.settings.get f ≠ t.get f ∧
      s.Shows (.replace values) (s.store.settings.adopt t f.upTo) ∧
      (s.perform (.replace values)).1.store.settings = s.store.settings.adopt t f.upTo
  /-- Observers find the new settings only, and these are left even if one of them raises, if
  and only if no field changes after one that changes and has observers. -/
  wholesale_iff : ((∀ found, s.Shows (.replace values) found → found = t) ∧
      (s.perform (.replace values)).1.store.settings = t) ↔
    ∀ f g, s.Announces t f → g ∉ f.upTo → s.store.settings.get g = t.get g

/-- Observers of a replacement may register and remove others, keep copies of the settings and
raise: they find, and leave, the new values of the first fields only. -/
theorem replaces (valid : ofTable values = .ok t) (spares : s.SparesSettings) :
  s.Replaces values t
  := by
  have found {found : Settings} (shown : s.Shows (.replace values) found) :
      ∃ f, s.store.settings.get f ≠ t.get f ∧ found = s.store.settings.adopt t f.upTo ∧
        ∃ g ∈ f.upTo, s.Announces t g := by
    obtain ⟨s', task, rest, reached, observer, rfl⟩ := (shows_replace_iff valid).mp shown
    exact Replacing.found spares reached observer
  constructor
  case shown =>
    intro settings shown
    obtain ⟨f, changes, same, -⟩ := found shown
    exact ⟨f, changes, same⟩
  case announced =>
    intro f announces first
    obtain ⟨before, after, cut⟩ := List.append_of_mem (Field.mem_all f)
    apply shows_first valid cut _ announces
    intro g mem
    apply first g
    · rw [Field.upTo_eq cut]
      exact List.mem_append_left _ mem
    · rintro rfl
      exact Field.not_mem_of_cut cut mem
  case returned =>
    intro returns
    rcases replace_ends valid spares with ⟨-, whole⟩ | ⟨raised, -⟩
    · exact whole
    · exact absurd returns raised
  case brokenOff =>
    intro raised
    rcases replace_ends valid spares with ⟨returns, -⟩ | ⟨-, shown⟩
    · exact absurd returns raised
    · obtain ⟨f, changes, same, -⟩ := found shown
      exact ⟨f, changes, same ▸ shown, same⟩
  case wholesale_iff =>
    constructor
    · rintro ⟨whole, -⟩ f g announces later
      obtain ⟨before, first, after, cut, announces, silent, mem⟩ := exists_first announces
      -- The first observers that are called find the later fields as they were.
      have same := whole _ (shows_first valid cut silent announces)
      rw [adopt_eq_iff] at same
      exact same g fun early => later (Field.upTo_subset mem early)
    · intro settled
      have whole : ∀ found, s.Shows (.replace values) found → found = t := by
        intro settings shown
        obtain ⟨f, -, rfl, g, mem, announces⟩ := found shown
        rw [adopt_eq_iff]
        intro d later
        exact settled g d announces fun early => later (Field.upTo_subset mem early)
      refine ⟨whole, ?_⟩
      rcases replace_ends valid spares with ⟨-, same⟩ | ⟨-, shown⟩
      · exact same
      · exact whole _ shown

/-! ### A replacement that is shown halfway -/

/-- A session with an observer of the executable that keeps a copy of the settings and then
raises, when it is told of a change. -/
def watchingSample : Session :=
  (start {}).performAll
    [.observe "watching" "executable_path" "watcher" [[], [.snapshot "seen", .raise]]]

/-- New values for the executable and for one more field. -/
def newValuesSample : Members :=
  [("executable_path", .text "/opt/flow"), ("show_uncovered", .boolean true)]

/-- The settings with these values. -/
def newSettingsSample : Settings := { executablePath := "/opt/flow", showUncovered := true }

theorem ofTable_newValuesSample :
  ofTable newValuesSample = .ok newSettingsSample
  := rfl

theorem watchingSample_eq :
  watchingSample =
    { store := ⟨{}, [(.executablePath, "watcher")]⟩
      scripts := [("watcher", [[.snapshot "seen", .raise]])]
      subscriptions := [("watching", .executablePath, "watcher")]
      copies := []
      calls := [⟨"watcher", .executablePath, ""⟩] }
  := by
  exact performAll_of_within (n := 4) rfl

theorem sparesSettings_watchingSample :
  watchingSample.SparesSettings
  := by
  rw [watchingSample_eq]
  simp [SparesSettings, scriptSpares, partSpares, Action.Spares]

theorem replaces_watchingSample :
  ofTable newValuesSample = .ok newSettingsSample ∧ watchingSample.SparesSettings ∧
    watchingSample.Replaces newValuesSample newSettingsSample
  := ⟨ofTable_newValuesSample, sparesSettings_watchingSample,
    replaces ofTable_newValuesSample sparesSettings_watchingSample⟩

/-- The observer finds, and leaves, one new value and one old one. -/
theorem replacement_left_halfway :
  let s := (watchingSample.perform (.replace newValuesSample)).1
  ofTable newValuesSample = .ok newSettingsSample ∧ watchingSample.SparesSettings ∧
    watchingSample.copies = [] ∧ s.copies = [("seen", { executablePath := "/opt/flow" })] ∧
    s.store.settings = { executablePath := "/opt/flow" } ∧ s.store.settings ≠ newSettingsSample
  := by
  have ran : (watchingSample.perform (.replace newValuesSample)).1 =
      { store := ⟨{ executablePath := "/opt/flow" }, [(.executablePath, "watcher")]⟩
        scripts := [("watcher", [])]
        subscriptions := [("watching", .executablePath, "watcher")]
        copies := [("seen", { executablePath := "/opt/flow" })]
        calls :=
          [⟨"watcher", .executablePath, "/opt/flow"⟩, ⟨"watcher", .executablePath, ""⟩] } := by
    rw [watchingSample_eq]
    change performAll _ [.replace newValuesSample] = _
    exact performAll_of_within (n := 5) rfl
  rw [ran]
  refine ⟨ofTable_newValuesSample, sparesSettings_watchingSample, ?_, rfl, rfl, by decide⟩
  rw [watchingSample_eq]

end Session

end Settings

end TypeCoverage
