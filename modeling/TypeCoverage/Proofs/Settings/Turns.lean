import TypeCoverage.Proofs.Settings.Watched
import Mathlib.Data.List.Nodup

/-!
# Whose turn it is

An observer that changes a setting while it is called for an older change of it lets the
observers behind it wait for both.  `due` are the calls that an entry is still to get, each
with what it goes back to, and `heard` those that it has got.

Calls nest: what a call leads to is done before the next call is made.  So the calls that
stand on an agenda are in the order of what they go back to, the newest first (`Stacked`),
and an entry is called for the newest thing that it is still to hear of (`InTurn`).  From a
moment on from which nothing new asks for calls to an entry, it gets those that were due
then, the newest first and hence the oldest last (`InTurn.heard_append_due`).
-/

namespace TypeCoverage.Settings

/-- The call that tells an entry a value, as it is recorded. -/
def Entry.told (e : Entry) (f : Field) (v : f.Carrier) : Delivery := ⟨e.observer, f, v⟩

namespace Note

/-- The call to an entry that a note asks for, with what it goes back to. -/
def asks (e : Entry) : Note → Option (Cause × Delivery)
  | .assigned k f v recipients => if e ∈ recipients then some (.change k, e.told f v) else none
  | .registered d v => if d = e then some (.entry d.number, d.told d.field v) else none
  | _ => none

/-- The call to an entry that a note is of, with what it goes back to. -/
def heard (e : Entry) : Note → Option (Cause × Delivery)
  | .called cause d delivery => if d = e then some (cause, delivery) else none
  | _ => none

/-- The calls that an entry is still to get after something has happened, the newest first. -/
def due (e : Entry) (before : List (Cause × Delivery)) (note : Note) : List (Cause × Delivery) :=
  match note.heard e with
  | some (cause, _) => before.eraseP (·.1 = cause)
  | none => (note.asks e).toList ++ before

end Note

/-- The calls that an entry is still to get after some notes, the newest first. -/
def due (e : Entry) (log : List Note) : List (Cause × Delivery) := log.foldl (Note.due e) []

/-- The calls that an entry has got. -/
def heard (e : Entry) (log : List Note) : List (Cause × Delivery) := log.filterMap (Note.heard e)

theorem due_concat (e : Entry) (log : List Note) (note : Note) :
  due e (log ++ [note]) = note.due e (due e log)
  := by
  rw [due, due, List.foldl_append, List.foldl_cons, List.foldl_nil]

theorem heard_append (e : Entry) (log later : List Note) :
  heard e (log ++ later) = heard e log ++ heard e later
  := List.filterMap_append

theorem Note.eq_called_of_heard {e : Entry} {note : Note} {call : Cause × Delivery}
    (told : note.heard e = some call) :
  note = .called call.1 e call.2
  := by
  cases note with
  | called cause d delivery =>
    rw [Note.heard] at told
    split at told
    · next same =>
      cases told
      rw [same]
    · cases told
  | _ => cases told

/-- Every call is the newest one that is due to the one called. -/
def InTurn (log : List Note) : Prop :=
  ∀ before cause e delivery after, log = before ++ .called cause e delivery :: after →
    (due e before).head? = some (cause, delivery)

theorem inTurn_concat (log : List Note) (note : Note) :
  InTurn (log ++ [note]) ↔ InTurn log ∧ ∀ cause e delivery,
    note = .called cause e delivery → (due e log).head? = some (cause, delivery)
  := by
  constructor
  · intro inTurn
    constructor
    · rintro before cause e delivery after rfl
      apply inTurn before cause e delivery (after ++ [note])
      simp
    · rintro cause e delivery rfl
      exact inTurn log cause e delivery [] rfl
  · rintro ⟨inTurn, last⟩ before cause e delivery after same
    rcases concat_eq_cut_iff.mp same with ⟨rfl, called, -⟩ | ⟨rest, -, cut⟩
    · exact last cause e delivery called
    · exact inTurn before cause e delivery rest cut

/-- Where nothing new asks for calls to an entry, it gets those that are due, in this order,
and what it does not get stays due. -/
theorem InTurn.heard_append_due {before after : List Note} (inTurn : InTurn (before ++ after))
    {e : Entry} (quiet : ∀ note ∈ after, note.asks e = none) :
  heard e after ++ due e (before ++ after) = due e before
  := by
  induction after generalizing before with
  | nil => simp [heard]
  | cons note after ih =>
    have cut : before ++ note :: after = (before ++ [note]) ++ after := by simp
    have rest := ih (by rwa [← cut]) fun later mem => quiet later (List.mem_cons_of_mem _ mem)
    rw [cut]
    cases told : note.heard e with
    | none =>
      have unasked := quiet note List.mem_cons_self
      rw [heard, List.filterMap_cons_none told, ← heard, rest, due_concat, Note.due, told, unasked]
      rfl
    | some call =>
      obtain rfl := Note.eq_called_of_heard told
      obtain ⟨others, first⟩ : ∃ others, due e before = call :: others :=
        List.head?_eq_some_iff.mp (inTurn before call.1 e call.2 after rfl)
      rw [heard, List.filterMap_cons_some told, ← heard, List.cons_append, rest, due_concat,
        Note.due, told, first]
      simp

/-! ### What stands on the agenda -/

/-- The call that an entry is to get from an item. -/
def Item.awaited (e : Entry) : Item → List (Cause × Delivery)
  | ⟨.deliver f v _, some (cause, entries)⟩ => if e ∈ entries then [(cause, e.told f v)] else []
  | _ => []

/-- An item calls no entry twice. -/
def Item.CallsOnce : Item → Prop
  | ⟨.deliver .., some (_, entries)⟩ => entries.Nodup
  | _ => True

/-- The calls that are due to entries stand on the agenda, the newest first. -/
structure Stacked (w : Watched) (agenda : List Item) : Prop where
  once : ∀ item ∈ agenda, item.CallsOnce
  due : ∀ e, due e w.log = agenda.flatMap (·.awaited e)
  inTurn : InTurn w.log

namespace Stacked

variable {base : Session} {w : Watched} {item : Item} {rest : List Item}

/-- What is done without a note asks for no calls and makes none. -/
theorem silent (stacked : Stacked w (item :: rest)) {w' : Watched} (items : List Item)
    (log : w'.log = w.log) (idle : ∀ e, item.awaited e = [])
    (plain : ∀ next ∈ items, next.CallsOnce ∧ ∀ e, next.awaited e = []) :
  Stacked w' (items ++ rest)
  where
  once next mem := by
    rcases List.mem_append.mp mem with mem | mem
    · exact (plain next mem).1
    · exact stacked.once next (List.mem_cons_of_mem _ mem)
  due e := by
    have none : items.flatMap (·.awaited e) = [] :=
      List.flatMap_eq_nil_iff.mpr fun next mem => (plain next mem).2 e
    rw [log, stacked.due, List.flatMap_cons, idle, List.flatMap_append, none]
  inTurn := by
    rw [log]
    exact stacked.inTurn

/-- What is done with a note puts the calls that the note asks for in front of the others. -/
theorem asked (stacked : Stacked w (item :: rest)) {session : Session} {note : Note}
    (items : List Item) (idle : ∀ e, item.awaited e = []) (uncalled : ∀ e, note.heard e = none)
    (once : ∀ next ∈ items, next.CallsOnce)
    (asks : ∀ e, items.flatMap (·.awaited e) = (note.asks e).toList) :
  Stacked ⟨session, w.log ++ [note]⟩ (items ++ rest)
  where
  once next mem := by
    rcases List.mem_append.mp mem with mem | mem
    · exact once next mem
    · exact stacked.once next (List.mem_cons_of_mem _ mem)
  due e := by
    rw [due_concat, Note.due, uncalled, stacked.due, List.flatMap_cons, idle, List.flatMap_append,
      asks]
    rfl
  inTurn := by
    rw [inTurn_concat]
    refine ⟨stacked.inTurn, ?_⟩
    rintro cause e delivery rfl
    simpa [Note.heard] using uncalled e

theorem assign (kept : Kept base w (item :: rest)) (stacked : Stacked w (item :: rest))
    (idle : ∀ e, item.awaited e = []) (f : Field) (v : f.Carrier) :
  Stacked ⟨(w.session.assign f v).1, w.log ++ [w.assignment base f v]⟩
    ((w.session.assign f v).2.map (Item.of (Watched.ticket? item (w.assignment base f v))) ++ rest)
  := by
  apply stacked.asked
  · exact idle
  · exact fun _ => rfl
  · intro next mem
    obtain rfl := List.mem_singleton.mp mem
    change List.Nodup (if _ then _ else _)
    split
    · exact List.nodup_nil
    · apply List.Nodup.filter
      apply kept.tells.numbers.1.imp
      rintro d e less rfl
      exact Nat.lt_irrefl _ less
  · intro e
    rw [Watched.assignment, Note.asks]
    rw [apply_ite Option.toList]
    exact List.append_nil _

theorem register (stacked : Stacked w (item :: rest)) (idle : ∀ e, item.awaited e = [])
    {session : Session} (e : Entry) (v : e.field.Carrier) (subscription : String) :
  Stacked ⟨session, w.log ++ [.registered e v]⟩
    ([Task.deliver e.field v [e.observer], .bind subscription e.field e.observer].map
      (Item.of (Watched.ticket? item (some (.registered e v)))) ++ rest)
  := by
  apply stacked.asked
  · exact idle
  · exact fun _ => rfl
  · intro next mem
    rcases List.mem_cons.mp mem with rfl | mem
    · exact List.nodup_singleton _
    · obtain rfl := List.mem_singleton.mp mem
      trivial
  · intro d
    by_cases same : d = e
    · simp [Item.of, Watched.ticket?, Item.awaited, Note.asks, same]
    · simp [Item.of, Watched.ticket?, Item.awaited, Note.asks, same, Ne.symm same]

/-- The one who is called hears of the newest thing that is due. -/
theorem call (kept : Kept base w (item :: rest)) (stacked : Stacked w (item :: rest)) {f : Field}
    {v : f.Carrier} {observer : String} {observers : List String}
    (task : item.task = .deliver f v (observer :: observers)) {session : Session}
    (part : List Action) :
  Stacked ⟨session, w.log ++ (w.note? base item).toList⟩
    ((part.map Task.perform ++ [Task.deliver f v observers]).map
      (Item.of (Watched.ticket? item (w.note? base item))) ++ rest)
  := by
  obtain ⟨_, ticket?⟩ := item
  obtain rfl := task
  obtain ⟨cause, entries, rfl, same⟩ := kept.agrees _ List.mem_cons_self
  cases entries with
  | nil => cases same
  | cons e entries =>
    rw [List.map_cons, List.cons.injEq] at same
    obtain ⟨rfl, rfl⟩ := same
    rw [List.map_append, List.map_map]
    change Stacked ⟨session, w.log ++ [.called cause e ⟨e.observer, f, v⟩]⟩
      (Kept.partItems part ++
        [⟨.deliver f v (entries.map (·.observer)), some (cause, entries)⟩] ++ rest)
    have once := List.nodup_cons.mp (stacked.once _ List.mem_cons_self)
    have others (d : Entry) : (Kept.partItems part).flatMap (·.awaited d) = [] := by
      simp [Kept.partItems, Item.awaited, List.flatMap_eq_nil_iff]
    constructor
    · intro next mem
      rcases List.mem_append.mp mem with mem | mem
      · rcases List.mem_append.mp mem with mem | mem
        · obtain ⟨a, -, rfl⟩ := List.mem_map.mp mem
          trivial
        · obtain rfl := List.mem_singleton.mp mem
          exact once.2
      · exact stacked.once next (List.mem_cons_of_mem _ mem)
    · intro d
      rw [due_concat, stacked.due, List.flatMap_append, List.flatMap_append, others]
      by_cases own : e = d
      · subst own
        simp [Note.due, Note.heard, Item.awaited, once.1]
      · simp [Note.due, Note.heard, Note.asks, Item.awaited, own, Ne.symm own]
    · rw [inTurn_concat]
      refine ⟨stacked.inTurn, ?_⟩
      rintro c d delivery called
      cases called
      rw [stacked.due, List.flatMap_cons, Item.awaited, if_pos List.mem_cons_self]
      rfl

/-- Every action that is begun keeps it. -/
theorem begin {a : Action} {ticket? : Option (Cause × List Entry)}
    (kept : Kept base w (⟨.perform a, ticket?⟩ :: rest))
    (stacked : Stacked w (⟨.perform a, ticket?⟩ :: rest)) {session : Session} {answer : Answer}
    {tasks : List Task} (begun : w.session.begin a = (session, .ok (answer, tasks))) :
  let item : Item := ⟨.perform a, ticket?⟩
  Stacked ⟨session, w.log ++ (w.note? base item).toList⟩
    (tasks.map (Item.of (Watched.ticket? item (w.note? base item))) ++ rest)
  := by
  intro item
  have idle : ∀ e, item.awaited e = [] := fun _ => rfl
  cases a with
  | set name d =>
    simp only [Session.begin] at begun
    split at begun
    · cases begun
    · next f v checked =>
      cases begun
      have note : w.note? base item = _ := Watched.note?_set checked ticket?
      rw [note]
      exact stacked.assign kept idle f v
  | observe subscription name observer script =>
    simp only [Session.begin] at begun
    split at begun
    · cases begun
    · next f known =>
      cases begun
      have note : w.note? base item = _ :=
        Watched.note?_observe known subscription observer script ticket?
      rw [note, kept.settings]
      exact stacked.register idle ⟨_, f, observer⟩ _ subscription
  | dispose subscription =>
    have tasks : tasks = [] := by
      simp only [Session.begin] at begun
      split at begun <;> cases begun <;> rfl
    subst tasks
    cases noted : w.note? base item with
    | none => exact stacked.silent [] (List.append_nil _) idle (by simp)
    | some note =>
      obtain ⟨e, rfl⟩ : ∃ e, note = .removed e := by
        obtain ⟨pair, -, found⟩ := Option.bind_eq_some_iff.mp noted
        obtain ⟨e, -, same⟩ := Option.map_eq_some_iff.mp found
        exact ⟨e, same.symm⟩
      exact stacked.asked [] idle (fun _ => rfl) (by simp) fun _ => rfl
  | get | replace | snapshot | showSnapshot | editSnapshot =>
    simp only [Session.begin] at begun
    repeat' split at begun
    all_goals
      cases begun <;> exact stacked.silent _ (List.append_nil _) idle (by
        simp [Item.of, Item.CallsOnce, Item.awaited])
  | raise => cases begun

/-- Every step keeps it. -/
theorem step (kept : Kept base w (item :: rest)) (stacked : Stacked w (item :: rest))
    {w' : Watched} {items : List Item} (h : w.step base item = (w', .ok items)) :
  Stacked w' (items ++ rest)
  := by
  have agrees := kept.agrees item List.mem_cons_self
  obtain ⟨task, ticket?⟩ := item
  cases task with
  | assign f v =>
    cases h
    exact stacked.assign kept (fun _ => rfl) f v
  | bind subscription f observer =>
    cases h
    exact stacked.silent [] (List.append_nil _) (fun _ => rfl) (by simp)
  | deliver f v observers =>
    cases observers with
    | nil =>
      obtain ⟨cause, entries, rfl, same⟩ := agrees
      obtain rfl := List.map_eq_nil_iff.mp same.symm
      cases h
      exact stacked.silent [] (List.append_nil _) (by simp [Item.awaited]) (by simp)
    | cons observer observers =>
      cases h
      exact stacked.call kept rfl _
  | perform a =>
    simp only [Watched.step, Session.step] at h
    cases begun : w.session.begin a with
    | mk session result =>
      rw [begun] at h
      cases result with
      | error e => cases h
      | ok answered =>
        cases h
        exact stacked.begin kept begun

end Stacked

end TypeCoverage.Settings
