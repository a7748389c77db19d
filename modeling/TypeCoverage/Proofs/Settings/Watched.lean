import TypeCoverage.Proofs.Settings.Notes

/-!
# Watching a dispatch

While an action is performed on a session, notes are made of what happens.  A watched
session (`Watched`) runs as the session does (`Watched.session_run`) and keeps these notes.

The calls that some assignment or registration asks for are those that were made and those
that still stand on the agenda, in this order (`Kept.owed`).  Every step keeps this
(`Kept.step`), so that in the end exactly the calls that were asked for have been made.
-/

namespace TypeCoverage.Settings

namespace Session

theorem run_cons_of_ok {s s' : Session} {task : Task} {tasks : List Task} (rest : List Task)
    (h : s.step task = (s', .ok tasks)) :
  s.run (task :: rest) = s'.run (tasks ++ rest)
  := by
  rw [run]
  split <;> simp_all

theorem run_cons_of_error {s s' : Session} {task : Task} {e : Failure} (rest : List Task)
    (h : s.step task = (s', .error e)) :
  s.run (task :: rest) = (s', .error e)
  := by
  rw [run]
  split <;> simp_all

/-- An action that cannot be begun changes neither store nor calls. -/
theorem begin_of_error {s s' : Session} {a : Action} {e : Failure}
    (h : s.begin a = (s', .error e)) :
  s'.store = s.store ∧ s'.calls = s.calls
  := by
  cases a <;> simp only [begin] at h <;> (repeat' split at h) <;> cases h <;> exact ⟨rfl, rfl⟩

theorem step_of_error {s s' : Session} {task : Task} {e : Failure}
    (h : s.step task = (s', .error e)) :
  s'.store = s.store ∧ s'.calls = s.calls
  := by
  cases task with
  | perform a =>
    simp only [step] at h
    split at h
    · cases h
    · next begun =>
      cases h
      exact begin_of_error begun
  | assign | bind => cases h
  | deliver f v observers => cases observers <;> cases h

end Session

/-! ### The watched session -/

/-- A task that makes no calls itself. -/
def Task.IsPlain : Task → Prop
  | .deliver .. => False
  | _ => True

/-- A thing still to be done.  Calls still to be made have what they go back to, and the
entries to be called. -/
structure Item where
  task : Task
  ticket? : Option (Cause × List Entry) := none

/-- A thing to be done, with the ticket if it makes calls. -/
def Item.of (ticket? : Option (Cause × List Entry)) : Task → Item
  | .deliver f v observers => ⟨.deliver f v observers, ticket?⟩
  | task => ⟨task, none⟩

/-- The calls still to be made that go back to a cause. -/
def Item.due (cause : Cause) : Item → List (Entry × Delivery)
  | ⟨.deliver f v _, some (c, entries)⟩ => if cause = c then entries.map (·.hears f v) else []
  | _ => []

/-- A session with the notes made so far. -/
structure Watched where
  session : Session
  log : List Note := []

namespace Watched

variable (base : Session)

/-- The note of an assignment. -/
def assignment (w : Watched) (f : Field) (v : f.Carrier) : Note :=
  .assigned (w.log.countP Note.isAssigned) f v
    (if v = (base.settingsAfter w.log).get f then []
      else (base.entriesAfter w.log).filter (·.field = f))

/-- What is noted when something is done. -/
def note? (w : Watched) (item : Item) : Option Note :=
  match item.task with
  | .perform (.set name d) =>
    match Store.checkValue name d with
    | .ok ⟨f, v⟩ => some (w.assignment base f v)
    | .error _ => none
  | .assign f v => some (w.assignment base f v)
  | .perform (.observe _ name observer _) =>
    (Field.ofName? name).map fun f =>
      .registered ⟨base.nextEntry w.log, f, observer⟩ ((base.settingsAfter w.log).get f)
  | .perform (.dispose subscription) =>
    (w.session.subscriptions.lookup subscription).bind fun pair =>
      ((base.entriesAfter w.log).find? fun e : Entry => e.pair = pair).map .removed
  | .deliver f v _ =>
    match item.ticket? with
    | some (cause, e :: _) => some (.called cause e ⟨e.observer, f, v⟩)
    | _ => none
  | _ => none

/-- The ticket of the calls that come of something that was noted. -/
def ticket? (item : Item) : Option Note → Option (Cause × List Entry)
  | some (.assigned k _ _ recipients) => some (.change k, recipients)
  | some (.registered e _) => some (.entry e.number, [e])
  | some (.called ..) => item.ticket?.map fun (cause, entries) => (cause, entries.tail)
  | _ => none

/-- Does the first thing on the agenda, and notes it. -/
def step (w : Watched) (item : Item) : Watched × Except Failure (List Item) :=
  match w.session.step item.task with
  | (session, .error e) => ({ w with session }, .error e)
  | (session, .ok tasks) =>
    ({ session, log := w.log ++ (w.note? base item).toList },
      .ok (tasks.map (Item.of (ticket? item (w.note? base item)))))

variable {base} in
/-- A value that has been checked is noted as an assignment. -/
theorem note?_set {w : Watched} {name : String} {d : Datum} {f : Field} {v : f.Carrier}
    (checked : Store.checkValue name d = .ok ⟨f, v⟩) (ticket? : Option (Cause × List Entry)) :
  w.note? base ⟨.perform (.set name d), ticket?⟩ = some (w.assignment base f v)
  := by
  simp [note?, checked]

variable {base} in
/-- An observer of a setting is noted as registered. -/
theorem note?_observe {w : Watched} {name : String} {f : Field}
    (known : Field.ofName? name = some f) (subscription observer : String)
    (script : List (List Action)) (ticket? : Option (Cause × List Entry)) :
  w.note? base ⟨.perform (.observe subscription name observer script), ticket?⟩ =
    some (.registered ⟨base.nextEntry w.log, f, observer⟩ ((base.settingsAfter w.log).get f))
  := by
  simp [note?, known]

theorem map_task_of (ticket? : Option (Cause × List Entry)) (tasks : List Task) :
  (tasks.map (Item.of ticket?)).map (·.task) = tasks
  := by
  have (task : Task) : (Item.of ticket? task).task = task := by cases task <;> rfl
  simp [this, Function.comp_def]

theorem step_of_ok {w w' : Watched} {item : Item} {items : List Item}
    (h : w.step base item = (w', .ok items)) :
  w.session.step item.task = (w'.session, .ok (items.map (·.task)))
  := by
  unfold step at h
  split at h
  · cases h
  · next same =>
    cases h
    rw [same, map_task_of]

theorem step_of_error {w w' : Watched} {item : Item} {e : Failure}
    (h : w.step base item = (w', .error e)) :
  w.session.step item.task = (w'.session, .error e) ∧ w'.log = w.log
  := by
  unfold step at h
  split at h
  · next same =>
    cases h
    exact ⟨same, rfl⟩
  · cases h

/-- Does everything on the agenda, or stops at the first failure. -/
def run (w : Watched) (agenda : List Item) : Watched × Except Failure Unit :=
  match agenda with
  | [] => (w, .ok ())
  | item :: rest =>
    match h : w.step base item with
    | (w, .error e) => (w, .error e)
    | (w, .ok items) => w.run (items ++ rest)
termination_by Session.weigh w.session (agenda.map (·.task))
decreasing_by
  rw [List.map_append, List.map_cons]
  apply Session.weigh_step_lt (step_of_ok base h)

theorem run_cons_of_ok {w w' : Watched} {item : Item} {items : List Item} (rest : List Item)
    (h : w.step base item = (w', .ok items)) :
  w.run base (item :: rest) = w'.run base (items ++ rest)
  := by
  rw [run]
  split <;> simp_all

theorem log_prefix_of_ok {w w' : Watched} {item : Item} {items : List Item}
    (h : w.step base item = (w', .ok items)) :
  w.log <+: w'.log
  := by
  unfold step at h
  split at h
  · cases h
  · cases h
    apply List.prefix_append

/-- Notes are never taken back. -/
theorem log_prefix_run (w : Watched) (agenda : List Item) :
  w.log <+: (w.run base agenda).1.log
  := by
  fun_induction run base w agenda with
  | case1 w => exact List.prefix_rfl
  | case2 w item rest w' e h =>
    have same : w'.log = w.log := (step_of_error base h).2
    simp [same]
  | case3 w item rest w' items h ih => exact List.IsPrefix.trans (log_prefix_of_ok base h) ih

/-- A watched session runs as the session does. -/
theorem session_run (w : Watched) (agenda : List Item) :
  w.session.run (agenda.map (·.task)) =
    ((w.run base agenda).1.session, (w.run base agenda).2)
  := by
  fun_induction run base w agenda with
  | case1 w => rw [List.map_nil, Session.run]
  | case2 w item rest w' e h =>
    rw [List.map_cons, Session.run_cons_of_error _ (step_of_error base h).1]
  | case3 w item rest w' items h ih =>
    rw [List.map_cons, Session.run_cons_of_ok _ (step_of_ok base h), ← List.map_append, ih]

end Watched

/-! ### What every step keeps -/

/-- The calls of an item are those of the entries on its ticket. -/
def Item.Agrees : Item → Prop
  | ⟨.deliver _ _ observers, ticket?⟩ =>
    ∃ cause entries, ticket? = some (cause, entries) ∧ observers = entries.map (·.observer)
  | _ => True

/-- A watched session with what still has to be done: the notes tell what the session has
become, and of the calls that they ask for, those not made yet stand on the agenda. -/
structure Kept (base : Session) (w : Watched) (agenda : List Item) : Prop where
  settings : w.session.store.settings = base.settingsAfter w.log
  observers : w.session.store.observers = (base.entriesAfter w.log).map Entry.pair
  calls : w.session.calls = (w.log.filterMap Note.delivery?).reverse ++ base.calls
  tells : base.Tells w.log
  agrees : ∀ item ∈ agenda, item.Agrees
  owed : ∀ cause, owed cause w.log = paid cause w.log ++ agenda.flatMap (·.due cause)

namespace Kept

variable {base : Session} {w : Watched} {item : Item} {rest : List Item}

theorem start (base : Session) (a : Action) :
  Kept base ⟨base, []⟩ [⟨.perform a, none⟩]
  where
  settings := rfl
  observers := by
    have : base.entries.map Entry.pair = base.store.observers := by
      apply List.ext_getElem <;> simp [Session.entries, Entry.pair]
    exact this.symm
  calls := rfl
  tells before note after same := by simp at same
  agrees item mem := by
    obtain rfl := List.mem_singleton.1 mem
    trivial
  owed cause := rfl

/-- What is done without a note leaves settings, observers and calls as they are. -/
theorem silent (kept : Kept base w (item :: rest)) {session : Session} (tasks : List Task)
    (note : w.note? base item = none) (store : session.store = w.session.store)
    (calls : session.calls = w.session.calls) (idle : ∀ cause, item.due cause = [])
    (plain : ∀ task ∈ tasks, task.IsPlain) :
  Kept base ⟨session, w.log ++ (w.note? base item).toList⟩
    (tasks.map (Item.of (Watched.ticket? item (w.note? base item))) ++ rest)
  := by
  have items (ticket?) : tasks.map (Item.of ticket?) = tasks.map fun task => ⟨task, none⟩ := by
    apply List.map_congr_left
    intro task mem
    have := plain task mem
    cases task <;> first | rfl | contradiction
  have due (cause : Cause) :
      (tasks.map fun task => (⟨task, none⟩ : Item)).flatMap (·.due cause) = [] := by
    simp [List.flatMap_eq_nil_iff, Item.due]
  rw [note, items, Option.toList_none, List.append_nil]
  exact {
    settings := by rw [store]; exact kept.settings
    observers := by rw [store]; exact kept.observers
    calls := by rw [calls]; exact kept.calls
    tells := kept.tells
    agrees := by
      intro next mem
      rcases List.mem_append.1 mem with mem | mem
      · obtain ⟨task, known, rfl⟩ := List.mem_map.1 mem
        have := plain task known
        cases task <;> trivial
      · exact kept.agrees next (List.mem_cons_of_mem _ mem)
    owed := by
      intro cause
      rw [List.flatMap_append, due, kept.owed cause, List.flatMap_cons, idle] }

/-- What is done with a note balances if the calls that the note asks for or is itself are
put on the agenda or taken off it. -/
theorem noted (kept : Kept base w (item :: rest)) {session : Session} {note : Note}
    (items : List Item)
    (settings : session.store.settings = note.settings w.session.store.settings)
    (observers : session.store.observers =
      (note.entries (base.entriesAfter w.log)).map Entry.pair)
    (calls : session.calls = note.delivery?.toList ++ w.session.calls)
    (fits : note.Fits base w.log) (agrees : ∀ next ∈ items, next.Agrees)
    (balance : ∀ cause, item.due cause ++ rest.flatMap (·.due cause) ++ note.owes cause =
      note.pays cause ++ items.flatMap (·.due cause) ++ rest.flatMap (·.due cause)) :
  Kept base ⟨session, w.log ++ [note]⟩ (items ++ rest)
  where
  settings := by
    rw [settings, kept.settings, Session.settingsAfter, Session.settingsAfter, List.foldl_append]
    rfl
  observers := by
    rw [observers, Session.entriesAfter, Session.entriesAfter, List.foldl_append]
    rfl
  calls := by
    rw [calls, kept.calls]
    cases h : note.delivery? <;> simp [h]
  tells := (base.tells_concat ..).2 ⟨kept.tells, fits⟩
  agrees next mem := by
    rcases List.mem_append.1 mem with mem | mem
    · exact agrees next mem
    · exact kept.agrees next (List.mem_cons_of_mem _ mem)
  owed cause := by
    have before := kept.owed cause
    rw [Settings.owed, paid] at before ⊢
    rw [List.flatMap_append, List.flatMap_append, before, List.flatMap_cons, List.flatMap_append]
    have := balance cause
    simp only [List.append_assoc] at this
    simp [this]

/-- A note that asks for calls under a new cause puts these calls on the agenda. -/
theorem balance_of_asks (kept : Kept base w (item :: rest)) {note : Note} {items : List Item}
    {new : Cause} (fresh : Settings.owed new w.log = [])
    (foreign : ∀ cause, cause ≠ new → note.owes cause = [])
    (pays : ∀ cause, note.pays cause = []) (idle : ∀ cause, item.due cause = [])
    (due : ∀ cause, items.flatMap (·.due cause) = note.owes cause) (cause : Cause) :
  item.due cause ++ rest.flatMap (·.due cause) ++ note.owes cause =
    note.pays cause ++ items.flatMap (·.due cause) ++ rest.flatMap (·.due cause)
  := by
  rw [idle, pays, due]
  by_cases same : cause = new
  · have none := kept.owed cause
    rw [same, fresh, List.flatMap_cons, idle] at none
    simp only [List.nil_eq, List.append_eq_nil_iff, true_and] at none
    simp [same, none.2]
  · simp [foreign cause same]

theorem observersOf_eq (kept : Kept base w (item :: rest)) (f : Field) :
  w.session.store.observersOf f =
    ((base.entriesAfter w.log).filter (·.field = f)).map (·.observer)
  := by
  rw [Store.observersOf, kept.observers, List.filter_map, List.map_map]
  congr 1

theorem assign (kept : Kept base w (item :: rest)) (idle : ∀ cause, item.due cause = [])
    (f : Field) (v : f.Carrier) :
  Kept base ⟨(w.session.assign f v).1, w.log ++ [w.assignment base f v]⟩
    ((w.session.assign f v).2.map (Item.of (Watched.ticket? item (w.assignment base f v))) ++ rest)
  := by
  have recipients : (w.session.store.change f v).2 = (if v = (base.settingsAfter w.log).get f
      then [] else (base.entriesAfter w.log).filter (·.field = f)).map (·.observer) := by
    rw [Store.change, kept.settings, kept.observersOf_eq]
    split <;> rfl
  apply kept.noted
  · rfl
  · exact kept.observers
  · rfl
  · exact ⟨rfl, rfl⟩
  · intro next mem
    obtain rfl := List.mem_singleton.1 mem
    exact ⟨_, _, rfl, recipients⟩
  · apply kept.balance_of_asks (owed_change kept.tells (Nat.le_refl _))
    · intro cause other
      exact if_neg other
    · exact fun _ => rfl
    · exact idle
    · intro cause
      exact List.append_nil _

theorem register (kept : Kept base w (item :: rest)) (idle : ∀ cause, item.due cause = [])
    (f : Field) (subscription observer : String) {session : Session}
    (store : session.store = w.session.store.observe f observer)
    (calls : session.calls = w.session.calls) :
  let note : Note :=
    .registered ⟨base.nextEntry w.log, f, observer⟩ ((base.settingsAfter w.log).get f)
  Kept base ⟨session, w.log ++ [note]⟩
    ([Task.deliver f (w.session.store.settings.get f) [observer],
      .bind subscription f observer].map (Item.of (Watched.ticket? item note)) ++ rest)
  := by
  intro note
  apply kept.noted
  · rw [store]
    rfl
  · rw [store, Store.observe, kept.observers]
    simp [note, Note.entries, Entry.pair]
  · exact calls
  · exact ⟨rfl, rfl⟩
  · intro next mem
    rcases List.mem_cons.1 mem with rfl | mem
    · exact ⟨_, _, rfl, rfl⟩
    · obtain rfl := List.mem_singleton.1 mem
      trivial
  · apply kept.balance_of_asks (owed_entry kept.tells (Nat.le_refl _))
    · intro cause other
      exact if_neg other
    · exact fun _ => rfl
    · exact idle
    · intro cause
      rw [kept.settings]
      exact List.append_nil _

/-- Removing the first entry of an observer removes its first registration. -/
theorem map_pair_erase {entries : List Entry} {pair : Field × String} {e : Entry}
    (found : entries.find? (fun d : Entry => d.pair = pair) = some e) :
  (entries.erase e).map Entry.pair = (entries.map Entry.pair).erase pair
  := by
  induction entries with
  | nil => cases found
  | cons d entries ih =>
    by_cases same : d.pair = pair
    · obtain rfl : d = e := by simpa [same] using found
      simp [same]
    · rw [List.find?_cons_of_neg (by simpa using same)] at found
      have other : d ≠ e := by
        rintro rfl
        exact same (by simpa using List.find?_some found)
      simp [same, other, ih found]

theorem dispose {subscription : String} {ticket? : Option (Cause × List Entry)}
    (kept : Kept base w (⟨.perform (.dispose subscription), ticket?⟩ :: rest))
    {f : Field} {observer : String}
    (known : w.session.subscriptions.lookup subscription = some (f, observer)) :
  Kept base
    ⟨{ w.session with store := w.session.store.forget f observer },
      w.log ++ (w.note? base ⟨.perform (.dispose subscription), ticket?⟩).toList⟩ rest
  := by
  have note : w.note? base ⟨.perform (.dispose subscription), ticket?⟩ =
      ((base.entriesAfter w.log).find? fun e : Entry => e.pair = (f, observer)).map .removed := by
    simp [Watched.note?, known]
  cases found : (base.entriesAfter w.log).find? fun e : Entry => e.pair = (f, observer) with
  | none =>
    have absent : (f, observer) ∉ w.session.store.observers := by
      rw [kept.observers, List.mem_map]
      rintro ⟨e, mem, same⟩
      simpa [same] using List.find?_eq_none.1 found e mem
    have store : w.session.store.forget f observer = w.session.store := by
      rw [Store.forget, List.erase_of_not_mem absent]
    rw [found, Option.map_none] at note
    exact kept.silent [] note store rfl (fun _ => rfl) (by simp)
  | some e =>
    have same : e.pair = (f, observer) := by simpa using List.find?_some found
    rw [note, found]
    apply kept.noted []
    · rfl
    · rw [Store.forget, kept.observers]
      exact (map_pair_erase found).symm
    · rfl
    · rw [Note.Fits, same]
      exact found
    · simp
    · exact fun _ => List.append_nil _

/-- An observer that is called performs a part of its script before the next is called. -/
def partItems (part : List Action) : List Item := part.map fun a => ⟨.perform a, none⟩

theorem due_partItems (part : List Action) (cause : Cause) :
  (partItems part).flatMap (·.due cause) = []
  := by
  simp [partItems, Item.due, List.flatMap_eq_nil_iff]

theorem call (kept : Kept base w (item :: rest)) {f : Field} {v : f.Carrier}
    {observer : String} {observers : List String}
    (task : item.task = .deliver f v (observer :: observers)) :
  let taken := Session.takePart observer w.session.scripts
  Kept base
    ⟨{ w.session with scripts := taken.2, calls := ⟨observer, f, v⟩ :: w.session.calls },
      w.log ++ (w.note? base item).toList⟩
    ((taken.1.map Task.perform ++ [Task.deliver f v observers]).map
      (Item.of (Watched.ticket? item (w.note? base item))) ++ rest)
  := by
  intro taken
  obtain ⟨_, ticket?⟩ := item
  obtain rfl := task
  obtain ⟨cause, entries, rfl, same⟩ := kept.agrees _ List.mem_cons_self
  cases entries with
  | nil => cases same
  | cons e entries =>
    rw [List.map_cons, List.cons.injEq] at same
    obtain ⟨rfl, rfl⟩ := same
    rw [List.map_append, List.map_map]
    change Kept base _ (partItems taken.1 ++
      [⟨.deliver f v (entries.map (·.observer)), some (cause, entries)⟩] ++ rest)
    apply kept.noted
    · rfl
    · exact kept.observers
    · rfl
    · refine ⟨(entries.map (·.hears f v)) ++ rest.flatMap (·.due cause), ?_⟩
      rw [kept.owed cause, List.flatMap_cons, Item.due, if_pos rfl]
      rfl
    · intro next mem
      rcases List.mem_append.1 mem with mem | mem
      · obtain ⟨a, -, rfl⟩ := List.mem_map.1 mem
        trivial
      · obtain rfl := List.mem_singleton.1 mem
        exact ⟨cause, entries, rfl, rfl⟩
    · intro cause'
      rw [List.flatMap_append, due_partItems]
      by_cases same : cause' = cause
      · simp [same, Item.due, Note.owes, Note.pays, Entry.hears]
      · simp [same, Item.due, Note.owes, Note.pays]

/-- Nothing comes of calling nobody. -/
theorem due_of_nobody {f : Field} {v : f.Carrier} {ticket? : Option (Cause × List Entry)}
    (agrees : Item.Agrees ⟨.deliver f v [], ticket?⟩) (cause : Cause) :
  Item.due cause ⟨.deliver f v [], ticket?⟩ = []
  := by
  obtain ⟨c, entries, rfl, same⟩ := agrees
  obtain rfl := List.map_eq_nil_iff.1 same.symm
  simp [Item.due]

/-- Every action that is begun keeps it. -/
theorem begin {a : Action} {ticket? : Option (Cause × List Entry)}
    (kept : Kept base w (⟨.perform a, ticket?⟩ :: rest)) {session : Session} {answer : Answer}
    {tasks : List Task} (begun : w.session.begin a = (session, .ok (answer, tasks))) :
  let item : Item := ⟨.perform a, ticket?⟩
  Kept base ⟨session, w.log ++ (w.note? base item).toList⟩
    (tasks.map (Item.of (Watched.ticket? item (w.note? base item))) ++ rest)
  := by
  intro item
  have idle : ∀ cause, item.due cause = [] := fun _ => rfl
  cases a with
  | set name d =>
    have note : w.note? base item = match Store.checkValue name d with
      | .ok ⟨f, v⟩ => some (w.assignment base f v)
      | .error _ => none := rfl
    simp only [Session.begin] at begun
    split at begun
    · cases begun
    · next f v checked =>
      cases begun
      rw [note, checked]
      exact kept.assign idle f v
  | observe subscription name observer script =>
    have note : w.note? base item = (Field.ofName? name).map fun f =>
      .registered ⟨base.nextEntry w.log, f, observer⟩ ((base.settingsAfter w.log).get f) := rfl
    simp only [Session.begin] at begun
    split at begun
    · cases begun
    · next f known =>
      cases begun
      rw [note, known]
      exact kept.register idle f subscription observer rfl rfl
  | dispose subscription =>
    simp only [Session.begin] at begun
    split at begun
    · next unknown =>
      cases begun
      have note : w.note? base item = none := by simp [item, Watched.note?, unknown]
      exact kept.silent _ note rfl rfl idle (by simp)
    · next f observer known =>
      cases begun
      exact kept.dispose known
  | get | replace | snapshot | showSnapshot | editSnapshot =>
    simp only [Session.begin] at begun
    repeat' split at begun
    all_goals
      cases begun <;> exact kept.silent _ rfl rfl rfl idle (by simp [Task.IsPlain])
  | raise => cases begun

/-- Every step keeps it. -/
theorem step (kept : Kept base w (item :: rest)) {w' : Watched} {items : List Item}
    (h : w.step base item = (w', .ok items)) :
  Kept base w' (items ++ rest)
  := by
  have agrees := kept.agrees item List.mem_cons_self
  obtain ⟨task, ticket?⟩ := item
  cases task with
  | assign f v =>
    cases h
    exact kept.assign (fun _ => rfl) f v
  | bind subscription f observer =>
    cases h
    exact kept.silent _ rfl rfl rfl (fun _ => rfl) (by simp)
  | deliver f v observers =>
    cases observers with
    | nil =>
      have idle := due_of_nobody agrees
      obtain ⟨cause, entries, rfl, same⟩ := agrees
      obtain rfl := List.map_eq_nil_iff.1 same.symm
      cases h
      exact kept.silent _ rfl rfl rfl idle (by simp)
    | cons observer observers =>
      cases h
      exact kept.call rfl
  | perform a =>
    simp only [Watched.step, Session.step] at h
    cases begun : w.session.begin a with
    | mk session result =>
      rw [begun] at h
      cases result with
      | error e => cases h
      | ok answered =>
        cases h
        exact kept.begin begun

/-- A step that fails changes neither store nor calls. -/
theorem of_error {agenda : List Item} (kept : Kept base w agenda) {w' : Watched} {e : Failure}
    (h : w.step base item = (w', .error e)) :
  Kept base w' agenda
  := by
  obtain ⟨failed, log⟩ := Watched.step_of_error base h
  obtain ⟨store, calls⟩ := Session.step_of_error failed
  exact {
    settings := by rw [store, log]; exact kept.settings
    observers := by rw [store, log]; exact kept.observers
    calls := by rw [calls, log]; exact kept.calls
    tells := by rw [log]; exact kept.tells
    agrees := kept.agrees
    owed := by rw [log]; exact kept.owed }

/-- A whole run keeps it, and if nothing fails, nothing is left to be done. -/
theorem run {agenda : List Item} (kept : Kept base w agenda) :
  ∃ left, Kept base (w.run base agenda).1 left ∧ ((w.run base agenda).2 = .ok () → left = [])
  := by
  fun_induction Watched.run base w agenda with
  | case1 w => exact ⟨[], kept, fun _ => rfl⟩
  | case2 w item rest w' e h => exact ⟨_, kept.of_error h, fun done => by cases done⟩
  | case3 w item rest w' items h ih => exact ih (kept.step h)

end Kept

end TypeCoverage.Settings
