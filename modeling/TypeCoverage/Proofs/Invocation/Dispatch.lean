import TypeCoverage.Invocation.Timeline
import TypeCoverage.Proofs.Invocation.Table
import Mathlib.Data.List.Induction
import Mathlib.Data.List.Nodup

/-!
# Calls that are carried out side by side

A `Dispatch` is what remains of a timeline when time is left out: the table of running
invocations, the replies given so far, and the number of the next call.  It changes by
events in any order: a call gets as far as its program, which is started or not, and the
wait for a started program ends.  Every timeline is a dispatch after some events
(`Timeline.Reached.exists_events`).

What stands in the table can be read off the events.  `registrations` are the calls whose
programs were started, in this order, and an invocation has ended (`Ended`) when an event
says so after its registration.  `Follows` says how the table follows from them, and every
event keeps it (`Follows.step`).
-/

namespace TypeCoverage

/-- The running invocations, the replies given so far and the number of the next call. -/
structure Dispatch where
  running : Running := .empty
  replies : List (Nat × Reply) := []
  next : Nat := 0

namespace Dispatch

/-- Something that happens to calls. -/
inductive Event where
  /-- A call gets as far as its program, which is started or not. -/
  | launched (call : Call) (spawned : Except Failure Child)
  /-- The wait for the program of an invocation has ended. -/
  | ended (id : Nat) (outcome : Outcome)

/-- A call gets as far as its program under the next number.  One whose program cannot be
started has its reply at once. -/
def launch (d : Dispatch) (call : Call) : Except Failure Child → Dispatch
  | .error why => { d with replies := d.replies ++ [(d.next, .failed why)], next := d.next + 1 }
  | .ok _ => { d with running := d.running.register d.next call, next := d.next + 1 }

/-- Ends an invocation, if it is running. -/
def finish (d : Dispatch) (id : Nat) (outcome : Outcome) : Dispatch :=
  match d.running.finish? id outcome with
  | none => d
  | some (reply, running) => { d with running := running, replies := d.replies ++ [(id, reply)] }

/-- The calls after an event. -/
def step (d : Dispatch) : Event → Dispatch
  | .launched call spawned => d.launch call spawned
  | .ended id outcome => d.finish id outcome

/-- The calls after some events, beginning with none. -/
def run (events : List Event) : Dispatch := events.foldl step {}

@[simp]
theorem run_concat (past : List Event) (event : Event) :
  run (past ++ [event]) = (run past).step event
  := by
  simp [run]

theorem next_finish (d : Dispatch) (id : Nat) (outcome : Outcome) :
  (d.finish id outcome).next = d.next
  := by
  rw [finish]
  split <;> rfl

/-- No reply is taken back. -/
theorem replies_subset_step (d : Dispatch) (event : Event) :
  d.replies ⊆ (d.step event).replies
  := by
  cases event with
  | launched call spawned =>
    cases spawned with
    | error why => apply List.subset_append_left
    | ok child => apply List.Subset.refl
  | ended id outcome =>
    simp only [step, finish]
    split
    · apply List.Subset.refl
    · apply List.subset_append_left

/-! ### What the events tell -/

/-- The numbers and calls of the programs that were started, where the first call has the
number `next`. -/
def registrationsFrom : Nat → List Event → List (Nat × Call)
  | _, [] => []
  | next, .launched call (.ok _) :: events => (next, call) :: registrationsFrom (next + 1) events
  | next, .launched _ (.error _) :: events => registrationsFrom (next + 1) events
  | next, .ended _ _ :: events => registrationsFrom next events

/-- The invocations registered so far, in the order of their registration. -/
def registrations (past : List Event) : List (Nat × Call) := registrationsFrom 0 past

/-- What an event adds to the invocations registered before. -/
def registered (next : Nat) : Event → List (Nat × Call)
  | .launched call (.ok _) => [(next, call)]
  | _ => []

/-- The invocations registered with a key, in the order of their registration. -/
def registeredUnder (key : String) (past : List Event) : List Nat :=
  ((registrations past).filter (·.2.uniqueKey = some key)).map (·.1)

/-- An invocation has ended: after its registration an event says so. -/
def Ended (past : List Event) (id : Nat) : Prop :=
  ∃ before outcome after, past = before ++ .ended id outcome :: after ∧
    id ∈ (registrations before).map (·.1)

/-- An invocation is the one that was registered most recently with a key. -/
def Latest (past : List Event) (key : String) (id : Nat) : Prop :=
  (registeredUnder key past).getLast? = some id

/-- After an invocation of a call, the next one with its key has been registered. -/
def Overtaken (past : List Event) (id : Nat) (call : Call) : Prop :=
  ∃ key, call.uniqueKey = some key ∧
    ∃ before later after, registeredUnder key past = before ++ id :: later :: after

/-! ### One event more -/

/-- The number of the calls that got as far as their programs. -/
def launches (past : List Event) : Nat :=
  past.countP fun
    | .launched .. => true
    | .ended .. => false

theorem next_run (past : List Event) :
  (run past).next = launches past
  := by
  induction past using List.reverseRecOn with
  | nil => rfl
  | append_singleton past event ih =>
    rw [run_concat, launches, List.countP_append, ← launches, ← ih]
    cases event with
    | launched call spawned => cases spawned <;> rfl
    | ended id outcome => apply next_finish

theorem registrationsFrom_concat (next : Nat) (past : List Event) (event : Event) :
  registrationsFrom next (past ++ [event]) =
    registrationsFrom next past ++ registered (next + launches past) event
  := by
  induction past generalizing next with
  | nil => rcases event with ⟨call, why | child⟩ | ⟨id, outcome⟩ <;> rfl
  | cons first past ih =>
    rcases first with ⟨call, why | child⟩ | ⟨id, outcome⟩
    · simp only [List.cons_append, registrationsFrom, ih, launches, List.countP_cons]
      grind
    · simp only [List.cons_append, registrationsFrom, ih, launches, List.countP_cons]
      grind
    · simp only [List.cons_append, registrationsFrom, ih, launches, List.countP_cons]
      grind

theorem registrations_concat (past : List Event) (event : Event) :
  registrations (past ++ [event]) = registrations past ++ registered (run past).next event
  := by
  rw [next_run]
  simpa [registrations] using registrationsFrom_concat 0 past event

theorem registrations_subset_concat (past : List Event) (event : Event) :
  registrations past ⊆ registrations (past ++ [event])
  := by
  rw [registrations_concat]
  apply List.subset_append_left

theorem ended_concat (past : List Event) (event : Event) (id : Nat) :
  Ended (past ++ [event]) id ↔ Ended past id ∨
    (∃ outcome, event = .ended id outcome) ∧ id ∈ (registrations past).map (·.1)
  := by
  constructor
  · rintro ⟨before, outcome, after, same, mem⟩
    rcases List.eq_nil_or_concat after with rfl | ⟨after, last, rfl⟩
    · obtain ⟨rfl, last⟩ := List.append_inj' same rfl
      apply Or.inr ⟨⟨outcome, by simpa using last⟩, mem⟩
    · rw [List.concat_eq_append, ← List.cons_append, ← List.append_assoc] at same
      obtain ⟨rfl, -⟩ := List.append_inj' same rfl
      apply Or.inl ⟨before, outcome, after, rfl, mem⟩
  · rintro (⟨before, outcome, after, rfl, mem⟩ | ⟨⟨outcome, rfl⟩, mem⟩)
    · exact ⟨before, outcome, after ++ [event], by simp, mem⟩
    · exact ⟨past, outcome, [], rfl, mem⟩

/-- Only an invocation that has been registered has ended. -/
theorem Ended.registered {past : List Event} {id : Nat} (h : Ended past id) :
  id ∈ (registrations past).map (·.1)
  := by
  induction past using List.reverseRecOn with
  | nil =>
    obtain ⟨before, outcome, after, same, -⟩ := h
    simp at same
  | append_singleton past event ih =>
    rw [registrations_concat, List.map_append]
    apply List.mem_append_left
    rcases (ended_concat ..).mp h with h | ⟨-, mem⟩
    · apply ih h
    · apply mem

theorem registeredUnder_concat (key : String) (past : List Event) (event : Event) :
  registeredUnder key (past ++ [event]) = registeredUnder key past ++
    ((registered (run past).next event).filter (·.2.uniqueKey = some key)).map (·.1)
  := by
  simp only [registeredUnder, registrations_concat, List.filter_append, List.map_append]

theorem mem_registeredUnder {key : String} {past : List Event} {id : Nat} :
  id ∈ registeredUnder key past ↔
    ∃ call, (id, call) ∈ registrations past ∧ call.uniqueKey = some key
  := by
  simp [registeredUnder]

theorem Latest.mem {past : List Event} {key : String} {id : Nat} (h : Latest past key id) :
  id ∈ registeredUnder key past
  := List.mem_of_getLast? h

theorem latest_launched (past : List Event) (call : Call) (child : Child) (key : String)
    (id : Nat) :
  Latest (past ++ [.launched call (.ok child)]) key id ↔
    if call.uniqueKey = some key then id = (run past).next else Latest past key id
  := by
  unfold Latest
  rw [registeredUnder_concat]
  split
  · next own => simp [registered, own, eq_comm]
  · next other => simp [registered, other]

/-- Events that start no program leave the newest registrations as they are. -/
theorem latest_of_registered_nil {past : List Event} {event : Event}
    (none : registered (run past).next event = []) (key : String) (id : Nat) :
  Latest (past ++ [event]) key id ↔ Latest past key id
  := by
  unfold Latest
  rw [registeredUnder_concat, none]
  simp

/-! ### The table follows from the events -/

/-- How the table follows from the events so far. -/
structure Follows (past : List Event) (d : Dispatch) : Prop where
  tidy : d.running.Tidy
  /-- Invocations are numbered in the order of their registration. -/
  ordered : (registrations past).Pairwise (·.1 < ·.1)
  below : ∀ p ∈ registrations past, p.1 < d.next
  newest : ∀ key id, d.running.newest? key = some id ↔ Latest past key id ∧ ¬ Ended past id
  found : ∀ id i, d.running.find? id = some i →
    i.id = id ∧ (id, i.call) ∈ registrations past ∧ ¬ Ended past id
  running : ∀ p ∈ registrations past, ¬ Ended past p.1 → ∃ i, d.running.find? p.1 = some i
  mark : ∀ id i, d.running.find? id = some i →
    (i.superseded = true ↔ ∃ key, i.call.uniqueKey = some key ∧ ¬ Latest past key id)

namespace Follows

variable {past : List Event} {d : Dispatch}

theorem begin : Follows [] {} where
  tidy := List.nodup_nil
  ordered := .nil
  below := by simp [registrations, registrationsFrom]
  newest key id := by
    simp [Running.newest?, Running.empty, Latest, registeredUnder, registrations,
      registrationsFrom]
  found id i := by simp [Running.find?, Running.empty]
  running := by simp [registrations, registrationsFrom]
  mark id i := by simp [Running.find?, Running.empty]

theorem nodup (h : Follows past d) :
  ((registrations past).map (·.1)).Nodup
  := by
  rw [List.Nodup, List.pairwise_map]
  apply h.ordered.imp
  intro p q lt
  apply Nat.ne_of_lt lt

/-- A number belongs to one call. -/
theorem call_unique (h : Follows past d) {id : Nat} {call other : Call}
    (mem : (id, call) ∈ registrations past) (mem' : (id, other) ∈ registrations past) :
  call = other
  := congrArg Prod.snd (List.inj_on_of_nodup_map h.nodup mem mem' rfl)

theorem fresh (h : Follows past d) (call : Call) :
  (d.next, call) ∉ registrations past
  := fun mem => Nat.lt_irrefl _ (h.below _ mem)

theorem not_ended_next (h : Follows past d) :
  ¬ Ended past d.next
  := by
  intro ended
  obtain ⟨⟨_, call⟩, mem, rfl⟩ := List.mem_map.mp ended.registered
  apply h.fresh call mem

theorem find_next (h : Follows past d) :
  d.running.find? d.next = none
  := by
  rw [Option.eq_none_iff_forall_ne_some]
  intro i found
  apply h.fresh i.call (h.found _ _ found).2.1

/-- The invocation that a call supersedes is the newest with its key, if it still runs. -/
theorem rival_iff (h : Follows past d) (call : Call) (id : Nat) :
  d.running.rival? call = some id ↔
    ∃ key, call.uniqueKey = some key ∧ Latest past key id ∧ ¬ Ended past id
  := by
  rw [Running.rival?]
  rw [Option.bind_eq_some_iff]
  simp only [h.newest]

/-- An invocation that runs after a start is the new one, or an old one that may have been
marked. -/
theorem found_launch (h : Follows past d) {call : Call} {child : Child} {id : Nat}
    {i : Invocation} (found : (d.launch call (.ok child)).running.find? id = some i) :
  id = d.next ∧ i = ⟨d.next, call, false⟩ ∨ ∃ old, d.running.find? id = some old ∧
    i = if d.running.rival? call = some id then { old with superseded := true } else old
  := by
  rw [launch, Running.find?_register _ _ _ h.find_next] at found
  split at found
  · next own =>
    apply Or.inl ⟨own, (Option.some.inj found).symm⟩
  · obtain ⟨old, found_old, marked⟩ := Option.map_eq_some_iff.mp found
    apply Or.inr ⟨old, found_old, marked.symm⟩

/-- The mark of an old invocation after a start. -/
theorem mark_old (h : Follows past d) (call : Call) {id : Nat} {old : Invocation}
    (found : d.running.find? id = some old) :
  (old.superseded = true ∨ d.running.rival? call = some id) ↔
    ∃ key, old.call.uniqueKey = some key ∧
      ¬ if call.uniqueKey = some key then id = d.next else Latest past key id
  := by
  obtain ⟨-, mem, running⟩ := h.found id old found
  have other : id ≠ d.next := fun same => Nat.lt_irrefl _ (same ▸ h.below _ mem)
  rw [h.mark id old found, h.rival_iff]
  constructor
  · rintro (⟨key, own, not_latest⟩ | ⟨key, taken, latest, -⟩)
    · refine ⟨key, own, ?_⟩
      split
      · apply other
      · apply not_latest
    · obtain ⟨call', mem', own⟩ := mem_registeredUnder.mp latest.mem
      obtain rfl := h.call_unique mem mem'
      refine ⟨key, own, ?_⟩
      rw [if_pos taken]
      apply other
  · rintro ⟨key, own, not_latest⟩
    split at not_latest
    · next taken =>
      by_cases latest : Latest past key id
      · apply Or.inr ⟨key, taken, latest, running⟩
      · apply Or.inl ⟨key, own, latest⟩
    · apply Or.inl ⟨key, own, not_latest⟩

/-- A program is started: its invocation takes its key over from the one before it. -/
theorem start (h : Follows past d) (same : d = run past) (call : Call) (child : Child) :
  Follows (past ++ [.launched call (.ok child)]) (d.launch call (.ok child))
  := by
  have new : registrations (past ++ [.launched call (.ok child)]) =
      registrations past ++ [(d.next, call)] := by
    rw [registrations_concat, ← same]
    rfl
  have ended (id : Nat) : Ended (past ++ [.launched call (.ok child)]) id ↔ Ended past id := by
    simp [ended_concat]
  have latest (key : String) (id : Nat) : Latest (past ++ [.launched call (.ok child)]) key id ↔
      if call.uniqueKey = some key then id = d.next else Latest past key id := by
    rw [latest_launched, same]
  constructor
  · apply Running.tidy_register h.tidy
  · rw [new, List.pairwise_append]
    refine ⟨h.ordered, List.pairwise_singleton .., ?_⟩
    intro p mem q mem'
    rw [List.mem_singleton.mp mem']
    apply h.below p mem
  · intro p mem
    rw [new, List.mem_append, List.mem_singleton] at mem
    rcases mem with mem | rfl
    · apply Nat.lt_succ_of_lt (h.below p mem)
    · apply Nat.lt_succ_self
  · intro key id
    rw [launch, Running.newest?_register, ended, latest]
    split
    · rw [Option.some.injEq]
      constructor
      · rintro rfl
        exact ⟨rfl, h.not_ended_next⟩
      · rintro ⟨rfl, -⟩
        rfl
    · apply h.newest
  · intro id i found
    rw [new, ended, List.mem_append, List.mem_singleton]
    rcases h.found_launch found with ⟨rfl, rfl⟩ | ⟨old, found_old, rfl⟩
    · exact ⟨rfl, Or.inr rfl, h.not_ended_next⟩
    · obtain ⟨number, mem, running⟩ := h.found id old found_old
      refine ⟨?_, Or.inl ?_, running⟩
      · split <;> apply number
      · split <;> apply mem
  · intro p mem running
    rw [new, List.mem_append, List.mem_singleton] at mem
    rw [ended] at running
    rw [launch, Running.find?_register _ _ _ h.find_next]
    rcases mem with mem | rfl
    · obtain ⟨i, found⟩ := h.running p mem running
      rw [if_neg (Nat.ne_of_lt (h.below p mem)), found]
      exact ⟨_, rfl⟩
    · exact ⟨_, if_pos rfl⟩
  · intro id i found
    simp only [latest]
    rcases h.found_launch found with ⟨rfl, rfl⟩ | ⟨old, found_old, rfl⟩
    · simp only [Bool.false_eq_true, false_iff, not_exists, not_and, not_not]
      intro key own
      rw [if_pos own]
      trivial
    · have marked := h.mark_old call found_old
      split
      · next rival => simpa [rival] using marked
      · next rival => simpa [rival] using marked

/-- An event that starts no program registers nothing. -/
theorem registrations_of_registered_nil {event : Event}
    (none : registered (run past).next event = []) :
  registrations (past ++ [event]) = registrations past
  := by
  rw [registrations_concat, none, List.append_nil]

/-- An event that starts nothing and ends nothing leaves the table as it is. -/
theorem idle (h : Follows past d) {event : Event} {d' : Dispatch}
    (none : registered (run past).next event = [])
    (ended : ∀ id, Ended (past ++ [event]) id ↔ Ended past id)
    (same : d'.running = d.running) (later : d.next ≤ d'.next) :
  Follows (past ++ [event]) d'
  := by
  have old := registrations_of_registered_nil none
  constructor
  · rw [same]
    apply h.tidy
  · rw [old]
    apply h.ordered
  · rw [old]
    intro p mem
    apply Nat.lt_of_lt_of_le (h.below p mem) later
  · intro key id
    rw [same, latest_of_registered_nil none, ended]
    apply h.newest
  · intro id i found
    rw [same] at found
    rw [old, ended]
    apply h.found id i found
  · intro p mem running
    rw [old] at mem
    rw [ended] at running
    rw [same]
    apply h.running p mem running
  · intro id i found
    rw [same] at found
    simp only [latest_of_registered_nil none]
    apply h.mark id i found

/-- A program is not started: nothing changes for the others. -/
theorem refuse (h : Follows past d) (call : Call) (why : Failure) :
  Follows (past ++ [.launched call (.error why)]) (d.launch call (.error why))
  := by
  apply h.idle rfl
  · intro id
    simp [ended_concat]
  · rfl
  · apply Nat.le_succ

/-- The wait for an invocation ends that is not running: nothing changes. -/
theorem miss (h : Follows past d) {gone : Nat} (absent : d.running.find? gone = none)
    (outcome : Outcome) :
  Follows (past ++ [.ended gone outcome]) d
  := by
  apply h.idle rfl
  · intro id
    rw [ended_concat, or_iff_left_of_imp]
    rintro ⟨⟨_, same⟩, mem⟩
    obtain ⟨rfl, -⟩ := Event.ended.inj same
    obtain ⟨p, registered, rfl⟩ := List.mem_map.mp mem
    by_contra running
    obtain ⟨i, found⟩ := h.running p registered running
    simp [absent] at found
  · rfl
  · apply Nat.le_refl

/-- The wait for a running invocation ends: it leaves the table, and its key only if no
newer one has taken it over. -/
theorem leave (h : Follows past d) {gone : Nat} {i : Invocation}
    (present : d.running.find? gone = some i) (outcome : Outcome)
    (replies : List (Nat × Reply)) :
  Follows (past ++ [.ended gone outcome])
    { d with running := d.running.remove gone, replies := replies }
  := by
  have none : registered (run past).next (.ended gone outcome) = [] := rfl
  have old := registrations_of_registered_nil none
  have ended (id : Nat) : Ended (past ++ [.ended gone outcome]) id ↔ Ended past id ∨ id = gone := by
    obtain ⟨-, mem, -⟩ := h.found gone i present
    rw [ended_concat]
    apply or_congr_right
    constructor
    · rintro ⟨⟨_, same⟩, -⟩
      apply (Event.ended.inj same).1.symm
    · rintro rfl
      exact ⟨⟨outcome, rfl⟩, List.mem_map.mpr ⟨_, mem, rfl⟩⟩
  constructor
  · apply Running.tidy_remove h.tidy
  · rw [old]
    apply h.ordered
  · rw [old]
    apply h.below
  · intro key id
    rw [latest_of_registered_nil none, ended, Running.newest?_remove h.tidy]
    have newest := h.newest key
    grind
  · intro id j found
    rw [Running.find?_remove] at found
    split at found
    · simp at found
    · next other =>
      obtain ⟨number, mem, running⟩ := h.found id j found
      rw [old, ended]
      refine ⟨number, mem, ?_⟩
      rintro (done | same)
      · apply running done
      · apply other same
  · intro p mem running
    rw [old] at mem
    rw [ended, not_or] at running
    rw [Running.find?_remove, if_neg running.2]
    apply h.running p mem running.1
  · intro id j found
    rw [Running.find?_remove] at found
    split at found
    · simp at found
    · simp only [latest_of_registered_nil none]
      apply h.mark id j found

/-- The table goes on following from the events. -/
theorem step (h : Follows past d) (same : d = run past) (event : Event) :
  Follows (past ++ [event]) (d.step event)
  := by
  rcases event with ⟨call, why | child⟩ | ⟨gone, outcome⟩
  · apply h.refuse
  · apply h.start same
  · rw [Dispatch.step, Dispatch.finish, Running.finish?]
    split
    · next none =>
      apply h.miss (Option.map_eq_none_iff.mp none)
    · next some =>
      obtain ⟨i, found, same⟩ := Option.map_eq_some_iff.mp some
      obtain ⟨-, rfl⟩ := Prod.mk.inj same
      apply h.leave found

end Follows

/-- After any events, the table follows from them. -/
theorem follows_run (past : List Event) :
  Follows past (run past)
  := by
  induction past using List.reverseRecOn with
  | nil => apply Follows.begin
  | append_singleton past event ih =>
    rw [run_concat]
    apply ih.step rfl

end Dispatch

end TypeCoverage
