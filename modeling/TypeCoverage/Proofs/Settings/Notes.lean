import TypeCoverage.Settings.Script
import TypeCoverage.Proofs.Cut
import Mathlib.Data.List.Induction

/-!
# Notes of a dispatch

A list of notes tells what has happened in a session since some moment: assignments, with
those who are to hear of them, registrations and removals of observers, and calls, with what
they go back to.  A note asks for some calls (`Note.owes`) or is itself a call (`Note.pays`).

What a note says must fit what was noted before it (`Note.Fits`).  From this follows what
is called when: under an assignment nobody is called before it, and under it only those are
who are to hear of it (`Session.Tells.paid_assigned`), each entry is called once for its own
registration (`Session.Tells.paid_registered`) and otherwise only for assignments that come
later (`Session.Tells.later`).
-/

namespace TypeCoverage.Settings

/-- A registration of an observer, by its number among all of them. -/
structure Entry where
  number : Nat
  field : Field
  observer : String
  deriving DecidableEq

/-- What a call goes back to: an assignment or the registration of the one called. -/
inductive Cause where
  | change (number : Nat)
  | entry (number : Nat)
  deriving DecidableEq

/-- Something that has happened. -/
inductive Note where
  /-- A setting was assigned a value, of which these are to hear. -/
  | assigned (change : Nat) (field : Field) (value : field.Carrier) (recipients : List Entry)
  /-- An observer was registered while the setting had a value. -/
  | registered (entry : Entry) (value : entry.field.Carrier)
  | removed (entry : Entry)
  | called (cause : Cause) (entry : Entry) (delivery : Delivery)

/-- The field and the observer of a registration, as the store has them. -/
def Entry.pair (e : Entry) : Field × String := (e.field, e.observer)

/-- The call that tells an entry a value. -/
def Entry.hears (e : Entry) (f : Field) (v : f.Carrier) : Entry × Delivery :=
  (e, ⟨e.observer, f, v⟩)

namespace Note

def isAssigned : Note → Bool
  | .assigned .. => true
  | _ => false

def isRegistered : Note → Bool
  | .registered .. => true
  | _ => false

/-- The call that was made, if the note is of one. -/
def delivery? : Note → Option Delivery
  | .called _ _ delivery => some delivery
  | _ => none

/-- The calls that a note asks for and that go back to a cause. -/
def owes (cause : Cause) : Note → List (Entry × Delivery)
  | .assigned k f v recipients => if cause = .change k then recipients.map (·.hears f v) else []
  | .registered e v => if cause = .entry e.number then [e.hears e.field v] else []
  | _ => []

/-- The call that a note is of, if it goes back to a cause. -/
def pays (cause : Cause) : Note → List (Entry × Delivery)
  | .called c e delivery => if cause = c then [(e, delivery)] else []
  | _ => []

/-- The entries after something has happened. -/
def entries (before : List Entry) : Note → List Entry
  | .registered e _ => before ++ [e]
  | .removed e => before.erase e
  | _ => before

/-- The settings after something has happened. -/
def settings (before : Settings) : Note → Settings
  | .assigned _ f v _ => before.set f v
  | _ => before

end Note

namespace Session

/-- The entries of a session, numbered in the order of their registration. -/
def entries (s : Session) : List Entry :=
  s.store.observers.mapIdx fun i (f, observer) => ⟨i, f, observer⟩

/-- The entries after some notes. -/
def entriesAfter (s : Session) (log : List Note) : List Entry := log.foldl Note.entries s.entries

/-- The settings after some notes. -/
def settingsAfter (s : Session) (log : List Note) : Settings :=
  log.foldl Note.settings s.store.settings

/-- The number of the next entry. -/
def nextEntry (s : Session) (log : List Note) : Nat :=
  s.store.observers.length + log.countP Note.isRegistered

end Session

/-- The calls that some notes ask for and that go back to a cause. -/
def owed (cause : Cause) (log : List Note) : List (Entry × Delivery) := log.flatMap (·.owes cause)

/-- The calls that have been made and go back to a cause. -/
def paid (cause : Cause) (log : List Note) : List (Entry × Delivery) := log.flatMap (·.pays cause)

/-- What a note says, after some others and beginning with a session.  All entries of a
field are to hear of a new value, and none of the old one; the first entry of an observer
for a field is removed; and a call is the next of those that its cause asks for. -/
def Note.Fits (s : Session) (before : List Note) : Note → Prop
  | .assigned k f v recipients =>
    k = before.countP Note.isAssigned ∧
      recipients = if v = (s.settingsAfter before).get f then []
        else (s.entriesAfter before).filter (·.field = f)
  | .registered e v => e.number = s.nextEntry before ∧ v = (s.settingsAfter before).get e.field
  | .removed e => (s.entriesAfter before).find? (fun d : Entry => d.pair = e.pair) = some e
  | .called cause e delivery =>
    ∃ later, owed cause before = paid cause before ++ (e, delivery) :: later

/-- All notes fit, beginning with a session. -/
def Session.Tells (s : Session) (log : List Note) : Prop :=
  ∀ before note after, log = before ++ note :: after → note.Fits s before

theorem Session.tells_concat (s : Session) (log : List Note) (note : Note) :
  s.Tells (log ++ [note]) ↔ s.Tells log ∧ note.Fits s log
  := by
  constructor
  · intro tells
    refine ⟨fun before other after cut => ?_, tells log note [] rfl⟩
    apply tells before other (after ++ [note])
    rw [cut, List.append_assoc, List.cons_append]
  · rintro ⟨tells, fits⟩ before other after same
    rcases concat_eq_cut_iff.mp same with ⟨rfl, rfl, -⟩ | ⟨rest, -, cut⟩
    · exact fits
    · exact tells before other rest cut

/-- What has been told so far was told before, too. -/
theorem Session.Tells.prefix {s : Session} {before after : List Note}
    (tells : s.Tells (before ++ after)) :
  s.Tells before
  := by
  rintro first note rest rfl
  apply tells first note (rest ++ after)
  rw [List.append_assoc, List.cons_append]

/-- A note asks for calls that go back to an assignment only if it is this assignment. -/
theorem Session.Tells.owes_change {s : Session} {log before after : List Note} {note : Note}
    (tells : s.Tells log) (cut : log = before ++ note :: after) {k : Nat}
    (other : note.isAssigned = true → k ≠ before.countP Note.isAssigned) :
  note.owes (.change k) = []
  := by
  have fits := tells before note after cut
  cases note with
  | assigned n f v recipients =>
    have : k ≠ n := by
      rw [fits.1]
      exact other rfl
    simp [Note.owes, this]
  | registered => simp [Note.owes]
  | removed | called => rfl

/-- A note asks for calls that go back to a registration only if it is this registration. -/
theorem Session.Tells.owes_entry {s : Session} {log before after : List Note} {note : Note}
    (tells : s.Tells log) (cut : log = before ++ note :: after) {n : Nat}
    (other : note.isRegistered = true → n ≠ s.nextEntry before) :
  note.owes (.entry n) = []
  := by
  have fits := tells before note after cut
  cases note with
  | registered e v =>
    have : n ≠ e.number := by
      rw [fits.1]
      exact other rfl
    simp [Note.owes, this]
  | assigned => simp [Note.owes]
  | removed | called => rfl

/-- No calls go back to an assignment that is still to come. -/
theorem owed_change {s : Session} {log : List Note} (tells : s.Tells log) {k : Nat}
    (new : log.countP Note.isAssigned ≤ k) :
  owed (.change k) log = []
  := by
  rw [owed, List.flatMap_eq_nil_iff]
  intro note mem
  obtain ⟨before, after, cut⟩ := List.append_of_mem mem
  apply tells.owes_change cut
  intro assigned
  rw [cut, List.countP_append, List.countP_cons_of_pos assigned] at new
  omega

/-- No calls go back to a registration that is still to come. -/
theorem owed_entry {s : Session} {log : List Note} (tells : s.Tells log) {n : Nat}
    (new : s.nextEntry log ≤ n) :
  owed (.entry n) log = []
  := by
  rw [owed, List.flatMap_eq_nil_iff]
  intro note mem
  obtain ⟨before, after, cut⟩ := List.append_of_mem mem
  apply tells.owes_entry cut
  intro registered
  rw [Session.nextEntry, cut, List.countP_append, List.countP_cons_of_pos registered] at new
  rw [Session.nextEntry]
  omega

/-! ### What the notes tell -/

namespace Session

section Tells

variable {s : Session} {log before after : List Note}

/-- Entries stand in the order of their registration, and the next one is a new one. -/
theorem Tells.numbers (tells : s.Tells log) :
  (s.entriesAfter log).Pairwise (fun d e => d.number < e.number) ∧
    ∀ e ∈ s.entriesAfter log, e.number < s.nextEntry log
  := by
  induction log using List.reverseRecOn with
  | nil =>
    constructor
    · rw [entriesAfter, List.foldl_nil, List.pairwise_iff_getElem]
      intro i j _ _ less
      simpa [entries] using less
    · intro e mem
      obtain ⟨i, bound, rfl⟩ := List.getElem_of_mem mem
      simp only [entriesAfter, List.foldl_nil, entries, List.length_mapIdx] at bound
      simpa [entriesAfter, entries, nextEntry] using bound
  | append_singleton log note ih =>
    obtain ⟨earlier, fits⟩ := (tells_concat ..).1 tells
    obtain ⟨ordered, below⟩ := ih earlier
    have next : s.nextEntry log ≤ s.nextEntry (log ++ [note]) := by
      simp [nextEntry]
    rw [entriesAfter, List.foldl_append, List.foldl_cons, List.foldl_nil]
    have goOn {e : Entry} (mem : e ∈ s.entriesAfter log) :
        e.number < s.nextEntry (log ++ [note]) := Nat.lt_of_lt_of_le (below e mem) next
    cases note with
    | assigned | called => exact ⟨ordered, fun e mem => goOn mem⟩
    | removed d =>
      exact ⟨ordered.sublist List.erase_sublist, fun e mem => goOn (List.mem_of_mem_erase mem)⟩
    | registered d v =>
      have number := fits.1
      constructor
      · rw [Note.entries, List.pairwise_append]
        refine ⟨ordered, List.pairwise_singleton .., fun e mem d' mem' => ?_⟩
        obtain rfl := List.mem_singleton.1 mem'
        rw [number]
        exact below e mem
      · intro e mem
        rcases List.mem_append.1 mem with mem | mem
        · exact goOn mem
        · obtain rfl := List.mem_singleton.1 mem
          rw [number, nextEntry, nextEntry, List.countP_append]
          simp [Note.isRegistered]

theorem Tells.nodup (tells : s.Tells log) :
  (s.entriesAfter log).Nodup
  := by
  apply tells.numbers.1.imp
  rintro d d' less rfl
  exact Nat.lt_irrefl _ less

/-- The calls made so far are asked for, and the first to be made. -/
theorem Tells.paid_prefix (tells : s.Tells log) (cause : Cause) :
  paid cause log <+: owed cause log
  := by
  induction log using List.reverseRecOn with
  | nil => exact List.prefix_rfl
  | append_singleton log note ih =>
    obtain ⟨earlier, fits⟩ := (tells_concat ..).1 tells
    have before := ih earlier
    rw [paid, owed, List.flatMap_append, List.flatMap_append, List.flatMap_singleton,
      List.flatMap_singleton]
    cases note with
    | assigned | registered | removed =>
      simp only [Note.pays, List.append_nil]
      exact before.trans (List.prefix_append ..)
    | called c e delivery =>
      simp only [Note.owes, List.append_nil, Note.pays]
      split
      · next same =>
        subst same
        obtain ⟨later, asked⟩ := fits
        exact ⟨later, by rw [List.append_assoc]; exact asked.symm⟩
      · rw [List.append_nil]
        exact before

/-- A call goes back to an assignment that it is told of, or to its own registration. -/
theorem Tells.caused (tells : s.Tells log) {cause : Cause} {e : Entry} {delivery : Delivery}
    (cut : log = before ++ .called cause e delivery :: after) :
  (∃ k f v recipients, cause = .change k ∧ .assigned k f v recipients ∈ before ∧
    e ∈ recipients ∧ delivery = ⟨e.observer, f, v⟩) ∨
      ∃ v, cause = .entry e.number ∧ .registered e v ∈ before ∧
        delivery = ⟨e.observer, e.field, v⟩
  := by
  obtain ⟨later, asked⟩ := tells before _ after cut
  have due : (e, delivery) ∈ owed cause before := by simp [asked]
  obtain ⟨note, mem, owes⟩ := List.mem_flatMap.1 due
  cases note with
  | assigned k f v recipients =>
    rw [Note.owes] at owes
    split at owes
    · next same =>
      obtain ⟨d, known, same'⟩ := List.mem_map.1 owes
      cases same'
      exact Or.inl ⟨k, f, v, recipients, same, mem, known, rfl⟩
    · cases owes
  | registered d v =>
    rw [Note.owes] at owes
    split at owes
    · next same =>
      cases List.mem_singleton.1 owes
      exact Or.inr ⟨v, same, mem, rfl⟩
    · cases owes
  | removed | called => cases owes

/-- Where all that one note in a log asks for under a cause is done, and no other note asks
for anything under it, the calls come after the note. -/
theorem Tells.paid_cut (tells : s.Tells log) {note : Note} {cause : Cause}
    (cut : log = before ++ note :: after) (pays : note.pays cause = [])
    (earlier : owed cause before = []) (later : owed cause after = []) :
  paid cause before = [] ∧
    (paid cause log = owed cause log → paid cause after = note.owes cause)
  := by
  subst cut
  have silent : paid cause before = [] := by
    have := tells.prefix.paid_prefix cause
    rwa [earlier, List.prefix_nil] at this
  refine ⟨silent, fun done => ?_⟩
  rw [paid, owed, List.flatMap_append, List.flatMap_append, List.flatMap_cons,
    List.flatMap_cons, pays, ← paid, ← owed, ← owed, ← paid, silent, earlier, later] at done
  simpa using done

/-- The calls that go back to an assignment come after it, if all that is asked for is
done: one to each of those who are to hear of it. -/
theorem Tells.paid_assigned (tells : s.Tells log) {k : Nat} {f : Field} {v : f.Carrier}
    {recipients : List Entry} (cut : log = before ++ .assigned k f v recipients :: after) :
  paid (.change k) before = [] ∧
    (paid (.change k) log = owed (.change k) log →
      paid (.change k) after = recipients.map (·.hears f v))
  := by
  have number := (tells before _ after cut).1
  have earlier : owed (.change k) before = [] := by
    rw [cut] at tells
    exact owed_change tells.prefix (Nat.le_of_eq number.symm)
  have later : owed (.change k) after = [] := by
    rw [owed, List.flatMap_eq_nil_iff]
    intro note mem
    obtain ⟨first, rest, same⟩ := List.append_of_mem mem
    have cut' : log = (before ++ .assigned k f v recipients :: first) ++ note :: rest := by
      rw [cut, same, List.append_assoc, List.cons_append]
    apply tells.owes_change cut'
    intro _
    rw [number, List.countP_append, List.countP_cons_of_pos rfl]
    omega
  have whole := tells.paid_cut cut rfl earlier later
  rwa [Note.owes, if_pos rfl] at whole

/-- An entry is called once for its own registration, after it. -/
theorem Tells.paid_registered (tells : s.Tells log) {e : Entry} {v : e.field.Carrier}
    (cut : log = before ++ .registered e v :: after) :
  paid (.entry e.number) before = [] ∧
    (paid (.entry e.number) log = owed (.entry e.number) log →
      paid (.entry e.number) after = [e.hears e.field v])
  := by
  have number := (tells before _ after cut).1
  have earlier : owed (.entry e.number) before = [] := by
    rw [cut] at tells
    exact owed_entry tells.prefix (Nat.le_of_eq number.symm)
  have later : owed (.entry e.number) after = [] := by
    rw [owed, List.flatMap_eq_nil_iff]
    intro note mem
    obtain ⟨first, rest, same⟩ := List.append_of_mem mem
    have cut' : log = (before ++ .registered e v :: first) ++ note :: rest := by
      rw [cut, same, List.append_assoc, List.cons_append]
    apply tells.owes_entry cut'
    intro _
    rw [number, nextEntry, nextEntry, List.countP_append, List.countP_cons_of_pos rfl]
    omega
  have whole := tells.paid_cut cut rfl earlier later
  rwa [Note.owes, if_pos rfl] at whole

/-- An entry is called only after its registration: for itself, or for an assignment that
is made later. -/
theorem Tells.later (tells : s.Tells log) {e d : Entry} {v : e.field.Carrier}
    {past rest : List Note} {cause : Cause} {delivery : Delivery}
    (registered : log = before ++ .registered e v :: after)
    (called : log = past ++ .called cause d delivery :: rest) (same : d.number = e.number) :
  cause = .entry e.number ∨
    ∃ k f v recipients, cause = .change k ∧ .assigned k f v recipients ∈ after
  := by
  rcases tells.caused called with ⟨k, f, w, recipients, rfl, mem, known, -⟩ | ⟨_, rfl, -⟩
  · refine Or.inr ⟨k, f, w, recipients, rfl, ?_⟩
    obtain ⟨first, later, rfl⟩ := List.append_of_mem mem
    rw [List.append_assoc, List.cons_append] at called
    have fits := (tells first _ _ called).2
    have below : d.number < s.nextEntry first := by
      rw [called] at tells
      apply tells.prefix.numbers.2
      rw [fits] at known
      split at known
      · cases known
      · exact (List.mem_filter.1 known).1
    have number := (tells before _ after registered).1
    rw [registered] at called
    rcases append_eq_cut_iff.1 called with ⟨between, cut, -⟩ | ⟨between, -, cut⟩
    · rw [same, number, cut, nextEntry, nextEntry, List.countP_append] at below
      omega
    · cases between with
      | nil => cases cut
      | cons note between =>
        obtain ⟨-, cut⟩ := List.cons.inj cut
        simp [cut]
  · exact Or.inl (by rw [same])

end Tells

end Session

end TypeCoverage.Settings
