import TypeCoverage.Proofs.Settings.LastHeard

/-!
# Handles of subscriptions

A registration returns a handle, which knows its setting and its observer but not the entry
that was registered.  A held session (`Held`) is a watched one that remembers for which entry
each handle was returned; `Session.deeds` are the notes of its actions together with what
happens to handles.

`Session.handling` says what the disposal of a handle does, in every session: it removes the
first entry with the setting and the observer of the handle.  This is the entry of the handle
and no other one if and only if no entry with the same setting and observer stands before it
or has taken its place.  An entry that has been removed gets no calls but those that were due
to it then.
-/

namespace TypeCoverage.Settings

/-- Something that happens to entries and their handles. -/
inductive Deed where
  | noted (note : Note)
  /-- The registration of an entry returns its handle. -/
  | returned (e : Entry)
  /-- The handle of an entry is disposed, which may remove an entry. -/
  | disposed (e : Entry) (removed? : Option Entry)

/-- The note of what happens, if there is one. -/
def Deed.note? : Deed → Option Note
  | .noted note => some note
  | .returned _ => none
  | .disposed _ removed? => removed?.map .removed

/-- The notes of what happens. -/
def notesOf (deeds : List Deed) : List Note := deeds.filterMap Deed.note?

theorem notesOf_append (deeds later : List Deed) :
  notesOf (deeds ++ later) = notesOf deeds ++ notesOf later
  := List.filterMap_append

theorem notesOf_disposed (e : Entry) (removed? : Option Entry) :
  notesOf [.disposed e removed?] = (removed?.map Note.removed).toList
  := by cases removed? <;> rfl

/-- The entry that is registered. -/
def Note.new? : Note → Option Entry
  | .registered e _ => some e
  | _ => none

/-- The setting and the observer whose registration returns. -/
def Task.returning? : Task → Option (Field × String)
  | .bind _ f observer => some (f, observer)
  | _ => none

/-- A watched session with the entries whose handles have been returned. -/
structure Held where
  watched : Watched
  /-- The entries whose registrations have not returned, the newest first. -/
  unreturned : List Entry := []
  /-- The subscriptions, with the entries whose handles they are. -/
  handles : List (String × Entry) := []
  deeds : List Deed := []

namespace Held

variable (base : Session)

/-- The first entry with the setting and the observer of another one. -/
def firstLike (h : Held) (e : Entry) : Option Entry :=
  (base.entriesAfter h.watched.log).find? fun d : Entry => d.pair = e.pair

/-- What becomes of handles when something is done. -/
def handle (h : Held) (item : Item) : Held :=
  match item.task with
  | .bind subscription _ _ =>
    match h.unreturned with
    | [] => h
    | e :: unreturned =>
      { h with
        unreturned := unreturned
        handles := (subscription, e) :: h.handles
        deeds := h.deeds ++ [.returned e] }
  | .perform (.dispose subscription) =>
    match h.handles.lookup subscription with
    | none => h
    | some e => { h with deeds := h.deeds ++ [.disposed e (h.firstLike base e)] }
  | _ =>
    let note? := h.watched.note? base item
    { h with
      unreturned := (note?.bind Note.new?).toList ++ h.unreturned
      deeds := h.deeds ++ note?.toList.map .noted }

/-- Does the first thing on the agenda. -/
def step (h : Held) (item : Item) : Held × Except Failure (List Item) :=
  match h.watched.step base item with
  | (watched, .error e) => ({ h with watched := watched }, .error e)
  | (watched, .ok items) => ({ h.handle base item with watched := watched }, .ok items)

theorem step_of_ok {h h' : Held} {item : Item} {items : List Item}
    (done : h.step base item = (h', .ok items)) :
  h.watched.step base item = (h'.watched, .ok items) ∧
    h'.unreturned = (h.handle base item).unreturned ∧
      h'.handles = (h.handle base item).handles ∧ h'.deeds = (h.handle base item).deeds
  := by
  rw [step] at done
  split at done
  · cases done
  · next same =>
    cases done
    exact ⟨same, rfl, rfl, rfl⟩

theorem step_of_error {h h' : Held} {item : Item} {e : Failure}
    (failed : h.step base item = (h', .error e)) :
  h.watched.step base item = (h'.watched, .error e) ∧ h'.unreturned = h.unreturned ∧
    h'.handles = h.handles ∧ h'.deeds = h.deeds
  := by
  rw [step] at failed
  split at failed
  · next same =>
    cases failed
    exact ⟨same, rfl, rfl, rfl⟩
  · cases failed

/-- Does everything on the agenda, or stops at the first failure. -/
def run (h : Held) (agenda : List Item) : Held × Except Failure Unit :=
  match agenda with
  | [] => (h, .ok ())
  | item :: rest =>
    match _ : h.step base item with
    | (h, .error e) => (h, .error e)
    | (h, .ok items) => h.run (items ++ rest)
termination_by Session.weigh h.watched.session (agenda.map (·.task))
decreasing_by
  rw [List.map_append, List.map_cons]
  apply Session.weigh_step_lt (Watched.step_of_ok base (step_of_ok base ‹_›).1)

theorem run_cons_of_ok {h h' : Held} {item : Item} {items : List Item} (rest : List Item)
    (done : h.step base item = (h', .ok items)) :
  h.run base (item :: rest) = h'.run base (items ++ rest)
  := by
  rw [run]
  split <;> simp_all

/-- A held session runs as the watched one does. -/
theorem watched_run (h : Held) (agenda : List Item) :
  h.watched.run base agenda = ((h.run base agenda).1.watched, (h.run base agenda).2)
  := by
  fun_induction run base h agenda with
  | case1 h => rw [Watched.run]
  | case2 h item rest h' e failed =>
    obtain ⟨same, -⟩ := step_of_error base failed
    rw [Watched.run]
    split <;> simp_all
  | case3 h item rest h' items done ih =>
    rw [Watched.run_cons_of_ok base rest (step_of_ok base done).1, ih]

/-- Performs an action with all the calls that follow from it.  Registrations that have been
broken off before never return. -/
def perform (h : Held) (a : Action) : Held :=
  ({ h with unreturned := [] }.run base [⟨.perform a, none⟩]).1

end Held

namespace Session

/-- The session held while some actions are performed on it. -/
def holdAll (s : Session) (actions : List Action) : Held :=
  actions.foldl (Held.perform s) { watched := ⟨s, []⟩ }

/-- What happens to entries and their handles while some actions are performed. -/
def deeds (s : Session) (actions : List Action) : List Deed := (s.holdAll actions).deeds

theorem holdAll_concat (s : Session) (actions : List Action) (a : Action) :
  s.holdAll (actions ++ [a]) = (s.holdAll actions).perform s a
  := by
  rw [holdAll, List.foldl_append]
  rfl

theorem watched_holdAll (s : Session) (actions : List Action) :
  (s.holdAll actions).watched = s.watchAll actions
  := by
  induction actions using List.reverseRecOn with
  | nil => rfl
  | append_singleton actions a ih =>
    rw [holdAll_concat, watchAll_concat, Watched.perform, ← ih, Held.perform]
    exact (congrArg Prod.fst (Held.watched_run s _ _)).symm

end Session

/-! ### What is kept of handles -/

/-- What happens fits what has happened before, beginning with a session.  A registration that
returns has begun before.  A handle that is disposed has been returned before, and what is
removed is the first entry with its setting and its observer. -/
def Deed.Fits (base : Session) (before : List Deed) : Deed → Prop
  | .noted _ => True
  | .returned e => ∃ v, .noted (.registered e v) ∈ before
  | .disposed e removed? =>
    .returned e ∈ before ∧
      removed? = (base.entriesAfter (notesOf before)).find? fun d : Entry => d.pair = e.pair

/-- A held session with what still has to be done. -/
structure Handled (base : Session) (h : Held) (agenda : List Item) : Prop where
  notes : notesOf h.deeds = h.watched.log
  subscriptions : h.watched.session.subscriptions = h.handles.map fun p => (p.1, p.2.pair)
  unreturned : h.unreturned.map Entry.pair = agenda.filterMap (·.task.returning?)
  begun : ∀ e ∈ h.unreturned, ∃ v, .noted (.registered e v) ∈ h.deeds
  returned : ∀ p ∈ h.handles, .returned p.2 ∈ h.deeds
  fits : ∀ before deed after, h.deeds = before ++ deed :: after → deed.Fits base before

theorem filterMap_returning (items : List Item) :
  (items.map (·.task)).filterMap Task.returning? = items.filterMap (·.task.returning?)
  := List.filterMap_map

theorem Watched.new?_dispose (base : Session) (w : Watched) (subscription : String)
    (ticket? : Option (Cause × List Entry)) :
  (w.note? base ⟨.perform (.dispose subscription), ticket?⟩).bind Note.new? = none
  := by
  simp [Watched.note?, Option.bind_assoc, Note.new?]

/-- A session that has come to its next state by a task that is no registration's return has
the same subscriptions, and of registrations those that begin are still to return. -/
theorem Session.step_of_not_returning (base : Session) {w : Watched} {item : Item}
    {s : Session} {tasks : List Task} (done : w.session.step item.task = (s, .ok tasks))
    (other : item.task.returning? = none) :
  s.subscriptions = w.session.subscriptions ∧
    tasks.filterMap Task.returning? =
      ((w.note? base item).bind Note.new?).toList.map Entry.pair
  := by
  obtain ⟨task, ticket?⟩ := item
  cases task with
  | bind => cases other
  | assign f v =>
    cases done
    exact ⟨rfl, rfl⟩
  | deliver f v observers =>
    have unregistered : (w.note? base ⟨.deliver f v observers, ticket?⟩).bind Note.new? = none := by
      rcases ticket? with _ | ⟨cause, _ | ⟨e, entries⟩⟩ <;> rfl
    rw [unregistered]
    cases observers with
    | nil =>
      cases done
      exact ⟨rfl, rfl⟩
    | cons observer observers =>
      cases done
      refine ⟨rfl, ?_⟩
      simp [List.filterMap_append, List.filterMap_eq_nil_iff, Task.returning?]
  | perform a =>
    simp only [Session.step] at done
    split at done
    · next begun =>
      cases done
      cases a with
      | set name d =>
        simp only [Session.begin] at begun
        split at begun
        · cases begun
        · next checked =>
          cases begun
          rw [Watched.note?_set checked]
          exact ⟨rfl, rfl⟩
      | observe subscription name observer script =>
        simp only [Session.begin] at begun
        split at begun
        · cases begun
        · next known =>
          cases begun
          rw [Watched.note?_observe known]
          exact ⟨rfl, rfl⟩
      | dispose subscription =>
        rw [Watched.new?_dispose]
        simp only [Session.begin] at begun
        split at begun <;> cases begun <;> exact ⟨rfl, rfl⟩
      | get | replace | snapshot | showSnapshot | editSnapshot =>
        simp only [Session.begin] at begun
        repeat' split at begun
        all_goals cases begun <;> exact ⟨rfl, rfl⟩
      | raise => cases begun
    · cases done

theorem Session.subscriptions_of_error {s s' : Session} {task : Task} {e : Failure}
    (failed : s.step task = (s', .error e)) :
  s'.subscriptions = s.subscriptions
  := by
  cases task with
  | perform a =>
    simp only [step] at failed
    split at failed
    · cases failed
    · next refused =>
      cases failed
      cases a <;> simp only [begin] at refused <;> (repeat' split at refused) <;> cases refused <;>
        rfl
  | deliver f v observers => cases observers <;> cases failed
  | assign | bind => cases failed

theorem lookup_map_pair (handles : List (String × Entry)) (name : String) :
  (handles.map fun p => (p.1, p.2.pair)).lookup name =
    (handles.lookup name).map Entry.pair
  := by
  induction handles with
  | nil => rfl
  | cons head handles ih =>
    obtain ⟨other, e⟩ := head
    rw [List.map_cons, List.lookup_cons, List.lookup_cons, ih]
    cases name == other <;> rfl

theorem Watched.log_of_ok {base : Session} {w w' : Watched} {item : Item} {items : List Item}
    (done : w.step base item = (w', .ok items)) :
  w'.log = w.log ++ (w.note? base item).toList
  := by
  rw [step] at done
  split at done
  · cases done
  · cases done
    rfl

namespace Handled

variable {base : Session} {h : Held} {item : Item} {agenda rest : List Item}

/-- What has happened fits, after one thing more that fits. -/
theorem fits_concat (handled : Handled base h agenda) {more : List Deed}
    (fits : ∀ deed ∈ more, deed.Fits base h.deeds) (single : more.length ≤ 1) :
  ∀ before deed after, h.deeds ++ more = before ++ deed :: after → deed.Fits base before
  := by
  intro before deed after same
  rcases append_eq_cut_iff.mp same with ⟨between, cut, -⟩ | ⟨between, rfl, cut⟩
  · exact handled.fits before deed between cut
  · obtain rfl : between = [] := by
      rw [cut] at single
      cases between with
      | nil => rfl
      | cons => simp at single
    rw [List.append_nil]
    exact fits deed (by rw [cut]; exact List.mem_cons_self)

/-- A registration returns: it is the one that has begun last of those still to return. -/
theorem bind {subscription observer : String} {f : Field}
    {ticket? : Option (Cause × List Entry)}
    (handled : Handled base h (⟨.bind subscription f observer, ticket?⟩ :: rest)) {h' : Held}
    {items : List Item}
    (done : h.step base ⟨.bind subscription f observer, ticket?⟩ = (h', .ok items)) :
  Handled base h' (items ++ rest)
  := by
  obtain ⟨watched, unreturned', handles', deeds'⟩ := Held.step_of_ok base done
  cases opened : h.unreturned with
  | nil =>
    have open_ := handled.unreturned
    simp [opened, Task.returning?] at open_
  | cons e unreturned =>
    have open_ := handled.unreturned
    rw [opened, List.map_cons, List.filterMap_cons] at open_
    obtain ⟨pair, open_⟩ := List.cons.inj open_
    have begun := handled.begun
    rw [opened] at begun
    obtain ⟨⟨v, begun⟩, others⟩ := List.forall_mem_cons.mp begun
    simp only [Held.handle, opened] at unreturned' handles' deeds'
    have moved := Watched.step_of_ok base watched
    have subscriptions : (subscription, f, observer) :: h.watched.session.subscriptions =
        h'.watched.session.subscriptions := congrArg (·.1.subscriptions) moved
    obtain rfl : items = [] := by
      have nothing : Except.ok [] = Except.ok (items.map (·.task)) := congrArg (·.2) moved
      simpa using nothing
    constructor
    case notes =>
      rw [deeds', notesOf_append, handled.notes, Watched.log_of_ok watched]
      rfl
    case subscriptions =>
      rw [← subscriptions, handles', List.map_cons, pair, handled.subscriptions]
    case unreturned =>
      rw [unreturned']
      exact open_
    case begun =>
      rw [unreturned', deeds']
      intro d mem
      obtain ⟨v, begun⟩ := others d mem
      exact ⟨v, List.mem_append_left _ begun⟩
    case returned =>
      rw [handles', deeds', List.forall_mem_cons]
      refine ⟨List.mem_append_right _ List.mem_cons_self, fun p mem => ?_⟩
      exact List.mem_append_left _ (handled.returned p mem)
    case fits =>
      have fit : Deed.Fits base h.deeds (.returned e) := ⟨v, begun⟩
      rw [deeds']
      exact handled.fits_concat (List.forall_mem_singleton.mpr fit) (Nat.le_refl 1)

/-- Something is done that disposes no handle and returns none. -/
theorem other (handled : Handled base h (item :: rest)) (returning : item.task.returning? = none)
    (disposing : ∀ subscription, item.task ≠ .perform (.dispose subscription)) {h' : Held}
    {items : List Item} (done : h.step base item = (h', .ok items)) :
  Handled base h' (items ++ rest)
  := by
  obtain ⟨watched, unreturned', handles', deeds'⟩ := Held.step_of_ok base done
  have handle : h.handle base item =
      { h with
        unreturned := ((h.watched.note? base item).bind Note.new?).toList ++ h.unreturned
        deeds := h.deeds ++ (h.watched.note? base item).toList.map .noted } := by
    rw [Held.handle]
    split
    · next known => simp [known, Task.returning?] at returning
    · next known => exact absurd known (disposing _)
    · rfl
  rw [handle] at unreturned' handles' deeds'
  obtain ⟨subscriptions, begins⟩ :=
    Session.step_of_not_returning base (Watched.step_of_ok base watched) returning
  rw [filterMap_returning] at begins
  constructor
  case notes =>
    rw [deeds', notesOf_append, handled.notes, Watched.log_of_ok watched]
    cases h.watched.note? base item <;> rfl
  case subscriptions => rw [subscriptions, handles', handled.subscriptions]
  case unreturned =>
    rw [unreturned', List.map_append, List.filterMap_append, ← begins, handled.unreturned,
      List.filterMap_cons, returning]
  case begun =>
    rw [unreturned', deeds']
    intro e mem
    rcases List.mem_append.mp mem with mem | mem
    · cases noted : h.watched.note? base item with
      | none => simp [noted] at mem
      | some note =>
        cases note with
        | registered d v =>
          obtain rfl : e = d := by simpa [noted, Note.new?] using mem
          exact ⟨v, List.mem_append_right _ List.mem_cons_self⟩
        | assigned | removed | called => simp [noted, Note.new?] at mem
    · obtain ⟨v, begun⟩ := handled.begun e mem
      exact ⟨v, List.mem_append_left _ begun⟩
  case returned =>
    rw [handles', deeds']
    intro p mem
    exact List.mem_append_left _ (handled.returned p mem)
  case fits =>
    rw [deeds']
    apply handled.fits_concat
    · intro deed mem
      obtain ⟨note, -, rfl⟩ := List.mem_map.mp mem
      trivial
    · rw [List.length_map]
      exact Option.length_toList_le

/-- A handle is disposed. -/
theorem dispose {subscription : String} {ticket? : Option (Cause × List Entry)}
    (handled : Handled base h (⟨.perform (.dispose subscription), ticket?⟩ :: rest)) {h' : Held}
    {items : List Item}
    (done : h.step base ⟨.perform (.dispose subscription), ticket?⟩ = (h', .ok items)) :
  Handled base h' (items ++ rest)
  := by
  obtain ⟨watched, unreturned', handles', deeds'⟩ := Held.step_of_ok base done
  obtain ⟨subscriptions, begins⟩ :=
    Session.step_of_not_returning base (Watched.step_of_ok base watched) rfl
  have log := Watched.log_of_ok watched
  have note : h.watched.note? base ⟨.perform (.dispose subscription), ticket?⟩ =
      ((h.handles.lookup subscription).bind (h.firstLike base)).map .removed := by
    rw [Watched.note?]
    simp only
    rw [handled.subscriptions, lookup_map_pair]
    cases h.handles.lookup subscription <;> rfl
  rw [filterMap_returning, Watched.new?_dispose] at begins
  have left : h.unreturned.map Entry.pair = (items ++ rest).filterMap (·.task.returning?) := by
    rw [List.filterMap_append, begins]
    exact handled.unreturned
  rw [note] at log
  cases known : h.handles.lookup subscription with
  | none =>
    simp only [Held.handle, known] at unreturned' handles' deeds'
    rw [known] at log
    exact {
      notes := by rw [deeds', handled.notes, log]; exact (List.append_nil _).symm
      subscriptions := by rw [subscriptions, handles', handled.subscriptions]
      unreturned := by rw [unreturned', left]
      begun := by rw [unreturned', deeds']; exact handled.begun
      returned := by rw [handles', deeds']; exact handled.returned
      fits := by rw [deeds']; exact handled.fits }
  | some e =>
    simp only [Held.handle, known] at unreturned' handles' deeds'
    rw [known] at log
    have fit : Deed.Fits base h.deeds (.disposed e (h.firstLike base e)) := by
      obtain ⟨newer, older, same, -⟩ := List.lookup_eq_some_iff.mp known
      have held : (subscription, e) ∈ h.handles := by
        rw [same]
        exact List.mem_append_right _ List.mem_cons_self
      refine ⟨handled.returned _ held, ?_⟩
      rw [handled.notes]
      rfl
    exact {
      notes := by
        rw [deeds', notesOf_append, handled.notes, log, notesOf_disposed]
        rfl
      subscriptions := by rw [subscriptions, handles', handled.subscriptions]
      unreturned := by rw [unreturned', left]
      begun := by
        rw [unreturned', deeds']
        intro d mem
        obtain ⟨v, begun⟩ := handled.begun d mem
        exact ⟨v, List.mem_append_left _ begun⟩
      returned := by
        rw [handles', deeds']
        exact fun p mem => List.mem_append_left _ (handled.returned p mem)
      fits := by
        rw [deeds']
        exact handled.fits_concat (List.forall_mem_singleton.mpr fit) (Nat.le_refl 1) }

/-- Every step keeps it. -/
theorem step (handled : Handled base h (item :: rest)) {h' : Held} {items : List Item}
    (done : h.step base item = (h', .ok items)) :
  Handled base h' (items ++ rest)
  := by
  obtain ⟨task, ticket?⟩ := item
  cases task with
  | bind subscription f observer => exact handled.bind done
  | assign | deliver => exact handled.other rfl (by simp) done
  | perform a =>
    cases a with
    | dispose subscription => exact handled.dispose done
    | _ => exact handled.other rfl (by simp) done

theorem of_error (handled : Handled base h agenda) {h' : Held} {e : Failure}
    (failed : h.step base item = (h', .error e)) :
  Handled base h' agenda
  := by
  obtain ⟨watched, unreturned, handles, deeds⟩ := Held.step_of_error base failed
  obtain ⟨refused, log⟩ := Watched.step_of_error base watched
  exact {
    notes := by rw [deeds, log]; exact handled.notes
    subscriptions := by
      rw [handles, ← handled.subscriptions]
      exact Session.subscriptions_of_error refused
    unreturned := by rw [unreturned]; exact handled.unreturned
    begun := by rw [unreturned, deeds]; exact handled.begun
    returned := by rw [handles, deeds]; exact handled.returned
    fits := by rw [deeds]; exact handled.fits }

/-- A whole run keeps it. -/
theorem run (handled : Handled base h agenda) :
  ∃ left, Handled base (h.run base agenda).1 left
  := by
  fun_induction Held.run base h agenda with
  | case1 h => exact ⟨[], handled⟩
  | case2 h item rest h' e failed => exact ⟨_, handled.of_error failed⟩
  | case3 h item rest h' items done ih => exact ih (handled.step done)

theorem perform (handled : Handled base h agenda) (a : Action) :
  ∃ left, Handled base (h.perform base a) left
  := run {
    notes := handled.notes
    subscriptions := handled.subscriptions
    unreturned := rfl
    begun := by simp
    returned := handled.returned
    fits := handled.fits }

end Handled

theorem Session.handled_holdAll {s : Session} (fresh : s.subscriptions = [])
    (actions : List Action) :
  ∃ left, Handled s (s.holdAll actions) left
  := by
  induction actions using List.reverseRecOn with
  | nil =>
    exact ⟨[], rfl, fresh, rfl, by simp [holdAll], by simp [holdAll], by simp [holdAll]⟩
  | append_singleton actions a ih =>
    obtain ⟨left, handled⟩ := ih
    rw [holdAll_concat]
    exact handled.perform a

/-! ### What a disposal does -/

namespace Session

section Tells

variable {s : Session} {log later : List Note} {e : Entry}

/-- An entry that has been registered is none of those that come next. -/
theorem Tells.number_lt_of_registered (tells : s.Tells log) {v : e.field.Carrier}
    (registered : .registered e v ∈ log) :
  e.number < s.nextEntry log
  := by
  obtain ⟨before, after, rfl⟩ := List.append_of_mem registered
  rw [(tells before _ after rfl).1, nextEntry, nextEntry, List.countP_append,
    List.countP_cons_of_pos rfl]
  omega

/-- An entry that has been removed is to hear of nothing new. -/
theorem Tells.quiet_of_removed (tells : s.Tells (log ++ later)) {v : e.field.Carrier}
    (registered : .registered e v ∈ log) (removed : e ∉ s.entriesAfter log) :
  ∀ note ∈ later, note.asks e = none
  := by
  intro note mem
  have old := tells.prefix.number_lt_of_registered registered
  obtain ⟨between, after, rfl⟩ := List.append_of_mem mem
  have cut : log ++ (between ++ note :: after) = (log ++ between) ++ note :: after := by simp
  rw [Option.eq_none_iff_forall_ne_some]
  intro call asks
  rcases asks_cases (Option.isSome_of_eq_some asks) with
    ⟨k, f, u, recipients, rfl, hears⟩ | ⟨u, rfl⟩
  · apply removed
    have present := (tells.recipient cut hears).1
    rw [cut] at tells
    exact tells.prefix.mem_of_later old present
  · have new := (tells _ _ _ cut).1
    rw [nextEntry, List.countP_append] at new
    rw [nextEntry] at old
    omega

/-- The first entry with a setting and an observer is the one that was registered first. -/
theorem Tells.firstLike (tells : s.Tells log) {first : Entry}
    (found : (s.entriesAfter log).find? (fun d : Entry => d.pair = e.pair) = some first) :
  first ∈ s.entriesAfter log ∧ first.pair = e.pair ∧
    ∀ d ∈ s.entriesAfter log, d.pair = e.pair → d = first ∨ first.number < d.number
  := by
  obtain ⟨like, older, newer, cut, unlike⟩ := List.find?_eq_some_iff_append.mp found
  refine ⟨List.mem_of_find?_eq_some found, by simpa using like, fun d mem same => ?_⟩
  have ordered := tells.numbers.1
  rw [cut] at mem ordered
  rcases List.mem_append.mp mem with mem | mem
  · simpa [same] using unlike d mem
  · rcases List.mem_cons.mp mem with rfl | mem
    · exact Or.inl rfl
    · exact Or.inr ((List.pairwise_cons.mp (List.pairwise_append.mp ordered).2.1).1 d mem)

/-- Removing the first entry like another one removes this one and no other if and only if
every entry like it is itself or has been registered later, while it is still there. -/
theorem Tells.erase_firstLike_iff (tells : s.Tells log) :
  let removed? := (s.entriesAfter log).find? fun d : Entry => d.pair = e.pair
  s.entriesAfter (log ++ (removed?.map Note.removed).toList) =
      (s.entriesAfter log).filter (· ≠ e) ↔
    ∀ d ∈ s.entriesAfter log, d.pair = e.pair → e ∈ s.entriesAfter log ∧ e.number ≤ d.number
  := by
  have distinct := tells.nodup
  intro removed?
  cases found : removed? with
  | none =>
    have unlike : ∀ d ∈ s.entriesAfter log, d.pair ≠ e.pair := by
      simpa [removed?] using found
    have kept : (s.entriesAfter log).filter (· ≠ e) = s.entriesAfter log := by
      rw [List.filter_eq_self]
      intro d mem
      rw [decide_eq_true_iff]
      rintro rfl
      exact unlike d mem rfl
    rw [kept]
    simp only [Option.map_none, Option.toList_none, List.append_nil, true_iff]
    intro d mem same
    exact absurd same (unlike d mem)
  | some first =>
    obtain ⟨present, like, least⟩ := tells.firstLike found
    have erased : s.entriesAfter (log ++ ((some first).map Note.removed).toList) =
        (s.entriesAfter log).erase first := entriesAfter_concat s log (.removed first)
    rw [erased]
    constructor
    · intro left
      obtain rfl : first = e := by
        by_contra other
        have still : first ∈ (s.entriesAfter log).erase first := by
          rw [left]
          exact List.mem_filter.mpr ⟨present, by simpa using other⟩
        exact distinct.not_mem_erase still
      intro d mem same
      refine ⟨present, ?_⟩
      rcases least d mem same with rfl | less
      · exact Nat.le_refl _
      · exact Nat.le_of_lt less
    · intro oldest
      obtain ⟨mem, at_most⟩ := oldest first present like
      rcases least e mem rfl with rfl | less
      · rw [distinct.erase_eq_filter]
        simp [bne, beq_eq_decide]
      · omega

end Tells

/-- What the handles of subscriptions do while some actions are performed. -/
structure Handling (s : Session) (actions : List Action) : Prop where
  /-- The notes are of the calls that are made, and of what becomes of the store. -/
  notes : notesOf (s.deeds actions) = s.history actions
  calls : (s.performAll actions).calls =
    ((s.history actions).filterMap Note.delivery?).reverse ++ s.calls
  observers : (s.performAll actions).store.observers =
    (s.entriesAfter (s.history actions)).map Entry.pair
  /-- All entries of a setting are to hear of its new values, and are called in their order. -/
  tells : s.Tells (s.history actions)
  /-- The subscriptions are the handles that have been returned. -/
  subscriptions : (s.performAll actions).subscriptions =
    (s.holdAll actions).handles.map fun p => (p.1, p.2.pair)
  /-- A handle is returned for an entry that has been registered. -/
  returned : ∀ before e after, s.deeds actions = before ++ .returned e :: after →
    ∃ v, .registered e v ∈ notesOf before
  /-- A disposal removes the first entry with the setting and the observer of the handle. -/
  removes : ∀ before e removed? after,
    s.deeds actions = before ++ .disposed e removed? :: after →
      .returned e ∈ before ∧
        removed? = (s.entriesAfter (notesOf before)).find? fun d : Entry => d.pair = e.pair
  /-- It takes away the entry of the handle and no other one if and only if, of the entries with
  its setting and its observer, there are none, or its own is still there and is the oldest. -/
  leaves_others_iff : ∀ before e removed? after,
    s.deeds actions = before ++ .disposed e removed? :: after →
      (s.entriesAfter (notesOf (before ++ [.disposed e removed?])) =
          (s.entriesAfter (notesOf before)).filter (· ≠ e) ↔
        ∀ d ∈ s.entriesAfter (notesOf before), d.pair = e.pair →
          e ∈ s.entriesAfter (notesOf before) ∧ e.number ≤ d.number)
  /-- An entry that has been removed gets no calls but those that are due to it. -/
  afterwards : ∀ before after e, s.deeds actions = before ++ after → .returned e ∈ before →
    e ∉ s.entriesAfter (notesOf before) → heard e (notesOf after) <+: due e (notesOf before)
  /-- It gets all of these, if no observer raises. -/
  afterwards_of_calm : (∀ a ∈ actions, a.BringsCalm) → ∀ before after e,
    s.deeds actions = before ++ after → .returned e ∈ before →
      e ∉ s.entriesAfter (notesOf before) → heard e (notesOf after) = due e (notesOf before)

theorem handling (settings : Settings) (actions : List Action) :
  (start settings).Handling actions
  := by
  obtain ⟨left, handled⟩ := handled_holdAll (s := start settings) rfl actions
  obtain ⟨lost, steady⟩ := steady_watchAll (start settings) actions
  have session := session_watchAll (start settings) actions
  have notes : notesOf ((start settings).deeds actions) = (start settings).history actions := by
    rw [history, ← watched_holdAll]
    exact handled.notes
  have tells : (start settings).Tells ((start settings).history actions) := steady.kept.tells
  have fits := handled.fits
  have returned : ∀ before e after,
      (start settings).deeds actions = before ++ .returned e :: after →
        ∃ v, .registered e v ∈ notesOf before := by
    intro before e after cut
    obtain ⟨v, begun⟩ := fits before (.returned e) after cut
    exact ⟨v, List.mem_filterMap.mpr ⟨_, begun, rfl⟩⟩
  have rest {before after : List Deed} {e : Entry}
      (cut : (start settings).deeds actions = before ++ after) (known : .returned e ∈ before)
      (removed : e ∉ (start settings).entriesAfter (notesOf before)) :
      heard e (notesOf after) ++ due e ((start settings).history actions) =
        due e (notesOf before) := by
    have whole : (start settings).history actions = notesOf before ++ notesOf after := by
      rw [← notes, cut, notesOf_append]
    have inTurn := steady.stacked.inTurn
    rw [← history, whole] at inTurn
    rw [whole] at tells ⊢
    obtain ⟨earlier, later, rfl⟩ := List.append_of_mem known
    obtain ⟨v, registered⟩ := returned earlier e (later ++ after) (by rw [cut]; simp)
    apply inTurn.heard_append_due
    apply tells.quiet_of_removed (v := v) _ removed
    rw [notesOf_append]
    exact List.mem_append_left _ registered
  constructor
  case notes => exact notes
  case calls =>
    rw [← session]
    exact steady.kept.calls
  case observers =>
    rw [← session]
    exact steady.kept.observers
  case tells => exact tells
  case subscriptions =>
    rw [← handled.subscriptions, watched_holdAll, session]
  case returned => exact returned
  case removes =>
    intro before e removed? after cut
    exact fits before (.disposed e removed?) after cut
  case leaves_others_iff =>
    intro before e removed? after cut
    obtain ⟨-, rfl⟩ := fits before _ after cut
    rw [← notes, cut, notesOf_append] at tells
    rw [notesOf_append, notesOf_disposed]
    exact tells.prefix.erase_firstLike_iff
  case afterwards =>
    intro before after e cut known removed
    exact ⟨_, rest cut known removed⟩
  case afterwards_of_calm =>
    intro calm before after e cut known removed
    have quiet : (start settings).IsCalm := by
      intro observer script mem
      cases mem
    have complete : due e ((start settings).history actions) = [] :=
      (steady_watchAll_of_calm quiet calm).stacked.due e
    rw [← rest cut known removed, complete, List.append_nil]

/-- Two registrations of one observer, of which the first is disposed twice before the setting
changes. -/
def twiceDisposedSample : List Action :=
  [.observe "first" "show_uncovered" "listener" [],
   .observe "second" "show_uncovered" "listener" [],
   .dispose "first",
   .dispose "first",
   .set "show_uncovered" (.boolean true)]

/-- Nobody has disposed the second registration, and it hears of nothing. -/
theorem disposing_twice_removes_another :
  let s := (start {}).performAll twiceDisposedSample
  .dispose "second" ∉ twiceDisposedSample ∧ s.store.observers = [] ∧
    s.store.settings.showUncovered = true ∧
      s.calls = [⟨"listener", .showUncovered, false⟩, ⟨"listener", .showUncovered, false⟩]
  := by
  have ends : performAllWithin 12 (start {}) twiceDisposedSample = some
      { store := { settings := { showUncovered := true }, observers := [] }
        scripts := [("listener", [])]
        subscriptions :=
          [("second", .showUncovered, "listener"), ("first", .showUncovered, "listener")]
        copies := []
        calls := [⟨"listener", .showUncovered, false⟩, ⟨"listener", .showUncovered, false⟩] } := rfl
  rw [performAll_of_within ends]
  exact ⟨by simp [twiceDisposedSample], rfl, rfl, rfl⟩

end Session

end TypeCoverage.Settings
