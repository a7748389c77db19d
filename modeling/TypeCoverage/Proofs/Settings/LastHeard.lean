import TypeCoverage.Proofs.Settings.History

/-!
# What observers have heard last

When an action has returned, the current value of a setting is the one that each of its
entries was to hear last (`Session.Tells.current`).  It need not be the one that they did
hear last.  Of an older change that an entry had not heard of by then, it hears after the
newer one, so that it ends with the oldest value that was still due to it.

`Session.hearsLast` says this for every session in which no observer raises: an entry ends
with the current value if and only if nothing else was due to it when this value was set, or
the oldest call that was due tells this value, too.
-/

namespace TypeCoverage.Settings

theorem due_of_asks {e : Entry} {note : Note} {call : Cause × Delivery}
    (asks : note.asks e = some call) (log : List Note) :
  due e (log ++ [note]) = call :: due e log
  := by
  rw [due_concat, Note.due]
  cases note with
  | called => cases asks
  | removed => cases asks
  | assigned | registered =>
    rw [asks]
    rfl

/-- A note that asks for a call to an entry is of an assignment that the entry is to hear of,
or of its own registration. -/
theorem asks_cases {e : Entry} {note : Note} (asks : (note.asks e).isSome) :
  (∃ k f v recipients, note = .assigned k f v recipients ∧ e ∈ recipients) ∨
    ∃ v, note = .registered e v
  := by
  cases note with
  | assigned k f v recipients =>
    by_cases hears : e ∈ recipients
    · exact Or.inl ⟨k, f, v, recipients, rfl, hears⟩
    · simp [Note.asks, hears] at asks
  | registered d v =>
    by_cases same : d = e
    · subst same
      exact Or.inr ⟨v, rfl⟩
    · simp [Note.asks, same] at asks
  | removed | called => cases asks

/-- A note is the last one of some that asks for a call to an entry. -/
structure IsLastFor (e : Entry) (log before : List Note) (note : Note) (after : List Note) :
    Prop where
  cut : log = before ++ note :: after
  asks : (note.asks e).isSome
  quiet : ∀ later ∈ after, later.asks e = none

/-- If a note asks for a call to an entry, there is a last one that does. -/
theorem exists_isLastFor {e : Entry} {log : List Note}
    (some : ∃ note ∈ log, (note.asks e).isSome) :
  ∃ before note after, IsLastFor e log before note after
  := by
  induction log using List.reverseRecOn with
  | nil => simp at some
  | append_singleton log last ih =>
    cases asks : last.asks e with
    | some call => exact ⟨log, last, [], rfl, by simp [asks], by simp⟩
    | none =>
      obtain ⟨note, mem, asked⟩ := some
      have earlier : note ∈ log := by
        rcases List.mem_append.mp mem with mem | mem
        · exact mem
        · obtain rfl := List.mem_singleton.mp mem
          simp [asks] at asked
      obtain ⟨before, note, after, rfl, asked, quiet⟩ := ih ⟨note, earlier, asked⟩
      refine ⟨before, note, after ++ [last], by simp, asked, ?_⟩
      rw [List.forall_mem_append, List.forall_mem_singleton]
      exact ⟨quiet, asks⟩

namespace Session

section Tells

variable {s : Session} {log : List Note} {e : Entry}

theorem entriesAfter_concat (s : Session) (log : List Note) (note : Note) :
  s.entriesAfter (log ++ [note]) = note.entries (s.entriesAfter log)
  := by
  rw [entriesAfter, entriesAfter, List.foldl_append, List.foldl_cons, List.foldl_nil]

theorem settingsAfter_concat (s : Session) (log : List Note) (note : Note) :
  s.settingsAfter (log ++ [note]) = note.settings (s.settingsAfter log)
  := by
  rw [settingsAfter, settingsAfter, List.foldl_append, List.foldl_cons, List.foldl_nil]

/-- An entry of a session has been registered, or it is one of those that were there before. -/
theorem registered_of_mem_entriesAfter (mem : e ∈ s.entriesAfter log) :
  e ∈ s.entries ∨ ∃ v, .registered e v ∈ log
  := by
  induction log using List.reverseRecOn with
  | nil => exact Or.inl mem
  | append_singleton log note ih =>
    have earlier (mem : e ∈ s.entriesAfter log) :
        e ∈ s.entries ∨ ∃ v, .registered e v ∈ log ++ [note] := by
      refine (ih mem).imp_right ?_
      rintro ⟨v, known⟩
      exact ⟨v, List.mem_append_left _ known⟩
    rw [entriesAfter_concat] at mem
    cases note with
    | registered d v =>
      rcases List.mem_append.mp mem with mem | mem
      · exact earlier mem
      · obtain rfl := List.mem_singleton.mp mem
        exact Or.inr ⟨v, List.mem_append_right _ List.mem_cons_self⟩
    | removed d => exact earlier (List.mem_of_mem_erase mem)
    | assigned | called => exact earlier mem

/-- An entry that has been removed does not come back. -/
theorem Tells.mem_of_later {later : List Note} (tells : s.Tells (log ++ later))
    (old : e.number < s.nextEntry log) (mem : e ∈ s.entriesAfter (log ++ later)) :
  e ∈ s.entriesAfter log
  := by
  induction later using List.reverseRecOn with
  | nil => rwa [List.append_nil] at mem
  | append_singleton later note ih =>
    rw [← List.append_assoc] at tells mem
    have earlier := ih tells.prefix
    rw [entriesAfter_concat] at mem
    cases note with
    | registered d v =>
      rcases List.mem_append.mp mem with mem | mem
      · exact earlier mem
      · obtain rfl := List.mem_singleton.mp mem
        have number := ((tells_concat ..).mp tells).2.1
        rw [nextEntry, List.countP_append] at number
        rw [nextEntry] at old
        omega
    | removed d => exact earlier (List.mem_of_mem_erase mem)
    | assigned | called => exact earlier mem

/-- A setting keeps its value as long as its entries are to hear of nothing new. -/
theorem Tells.settings_of_quiet {later : List Note} (tells : s.Tells (log ++ later))
    (old : e.number < s.nextEntry log) (mem : e ∈ s.entriesAfter (log ++ later))
    (quiet : ∀ note ∈ later, note.asks e = none) :
  (s.settingsAfter (log ++ later)).get e.field = (s.settingsAfter log).get e.field
  := by
  induction later using List.reverseRecOn with
  | nil => rw [List.append_nil]
  | append_singleton later note ih =>
    rw [List.forall_mem_append, List.forall_mem_singleton] at quiet
    rw [← List.append_assoc] at tells mem ⊢
    obtain ⟨told, fits⟩ := (tells_concat ..).mp tells
    have present : e ∈ s.entriesAfter (log ++ later) := by
      apply tells.mem_of_later _ mem
      rw [nextEntry] at old
      rw [nextEntry, List.countP_append]
      omega
    rw [settingsAfter_concat, ← ih told present quiet.1]
    cases note with
    | assigned k f v recipients =>
      by_cases same : e.field = f
      · subst same
        rw [Note.settings, get_set_self]
        by_contra new
        have hears : e ∈ recipients := by
          rw [fits.2, if_neg new]
          exact List.mem_filter.mpr ⟨present, by simp⟩
        simp [Note.asks, hears] at quiet
      · exact get_set_of_ne _ v same
    | registered | removed | called => rfl

/-- Those who are to hear of an assignment are entries of its setting. -/
theorem Tells.recipient (tells : s.Tells log) {before after : List Note} {k : Nat} {f : Field}
    {v : f.Carrier} {recipients : List Entry}
    (cut : log = before ++ .assigned k f v recipients :: after) (hears : e ∈ recipients) :
  e ∈ s.entriesAfter before ∧ e.field = f
  := by
  rw [(tells before _ after cut).2] at hears
  split at hears
  · cases hears
  · simpa using hears

/-- The last note that asks for a call to an entry tells the current value of its setting. -/
theorem Tells.current (tells : s.Tells log) (mem : e ∈ s.entriesAfter log)
    {before after : List Note} {note : Note} (last : IsLastFor e log before note after) :
  ∃ cause, note.asks e = some (cause, e.told e.field ((s.settingsAfter log).get e.field))
  := by
  have cut : log = (before ++ [note]) ++ after := by rw [last.cut]; simp
  have old : e.number < s.nextEntry (before ++ [note]) := by
    rw [nextEntry, List.countP_append, ← Nat.add_assoc, ← nextEntry]
    rcases asks_cases last.asks with ⟨k, f, v, recipients, rfl, hears⟩ | ⟨v, rfl⟩
    · have present := (tells.recipient last.cut hears).1
      rw [last.cut] at tells
      apply Nat.lt_add_right
      exact tells.prefix.numbers.2 e present
    · rw [(tells before _ after last.cut).1]
      exact Nat.lt_succ_self _
  have same : (s.settingsAfter log).get e.field =
      (note.settings (s.settingsAfter before)).get e.field := by
    rw [cut] at tells mem ⊢
    rw [tells.settings_of_quiet old mem last.quiet, settingsAfter_concat]
  rw [same]
  rcases asks_cases last.asks with ⟨k, f, v, recipients, rfl, hears⟩ | ⟨v, rfl⟩
  · obtain rfl := (tells.recipient last.cut hears).2
    exact ⟨.change k, by rw [Note.asks, if_pos hears, Note.settings, get_set_self]⟩
  · refine ⟨.entry e.number, ?_⟩
    rw [Note.asks, if_pos rfl, (tells before _ after last.cut).2]
    rfl

end Tells

/-- What an entry has to be told so that it knows the value of its setting. -/
def current (s : Session) (e : Entry) : Delivery :=
  e.told e.field (s.store.settings.get e.field)

/-- What entries have heard last when some actions have been performed. -/
structure HearsLast (s : Session) (actions : List Action) : Prop where
  /-- The notes are of the calls that are made, and of what becomes of the store. -/
  calls : (s.performAll actions).calls =
    ((s.history actions).filterMap Note.delivery?).reverse ++ s.calls
  store : (s.performAll actions).store =
    ⟨s.settingsAfter (s.history actions), (s.entriesAfter (s.history actions)).map Entry.pair⟩
  /-- The last call that is asked for to an entry tells it the current value. -/
  asked : ∀ e ∈ s.entriesAfter (s.history actions), ∃ before note after cause,
    IsLastFor e (s.history actions) before note after ∧
      note.asks e = some (cause, (s.performAll actions).current e)
  /-- The last call that it gets is the oldest of those that were due to it then. -/
  oldest : ∀ e ∈ s.entriesAfter (s.history actions), ∀ before note after,
    IsLastFor e (s.history actions) before note after →
      (heard e (s.history actions)).getLast? = (due e (before ++ [note])).getLast?
  /-- It has heard the current value last if and only if nothing else was due to it then, or
  the oldest call that was due tells this value, too. -/
  upToDate_iff : ∀ e ∈ s.entriesAfter (s.history actions), ∀ before note after,
    IsLastFor e (s.history actions) before note after →
      ((heard e (s.history actions)).getLast?.map (·.2) = some ((s.performAll actions).current e) ↔
        ∀ call, (due e before).getLast? = some call → call.2 = (s.performAll actions).current e)

/-- Where no observer raises, each entry ends with the oldest value that was still due to it
when the current one was set. -/
theorem hearsLast (settings : Settings) {actions : List Action}
    (calm : ∀ a ∈ actions, a.BringsCalm) :
  (start settings).HearsLast actions
  := by
  have quiet : (start settings).IsCalm := by
    intro observer script mem
    cases mem
  have steady := steady_watchAll_of_calm quiet calm
  have session := session_watchAll (start settings) actions
  have values : ((start settings).performAll actions).store.settings =
      (start settings).settingsAfter ((start settings).history actions) := by
    rw [← session]
    exact steady.kept.settings
  have complete (e : Entry) : due e ((start settings).history actions) = [] := steady.stacked.due e
  have oldest (e : Entry) {before after : List Note} {note : Note}
      (last : IsLastFor e ((start settings).history actions) before note after) :
      (heard e ((start settings).history actions)).getLast? =
        (due e (before ++ [note])).getLast? := by
    have cut : (start settings).history actions = (before ++ [note]) ++ after := by
      rw [last.cut]
      simp
    have inTurn : InTurn ((before ++ [note]) ++ after) := by
      rw [← cut]
      exact steady.stacked.inTurn
    have rest := inTurn.heard_append_due last.quiet
    rw [← cut, complete, List.append_nil] at rest
    obtain ⟨call, asks⟩ := Option.isSome_iff_exists.mp last.asks
    rw [cut, heard_append, rest, due_of_asks asks, List.getLast?_append, List.getLast?_cons]
    rfl
  constructor
  case calls =>
    rw [← session]
    exact steady.kept.calls
  case store =>
    rw [← session]
    exact congrArg₂ Store.mk steady.kept.settings steady.kept.observers
  case asked =>
    intro e mem
    obtain ⟨v, registered⟩ : ∃ v, .registered e v ∈ (start settings).history actions := by
      rcases registered_of_mem_entriesAfter mem with old | registered
      · cases old
      · exact registered
    obtain ⟨before, note, after, last⟩ :=
      exists_isLastFor (e := e) ⟨_, registered, by rw [Note.asks, if_pos rfl]; rfl⟩
    obtain ⟨cause, asks⟩ := steady.kept.tells.current mem last
    refine ⟨before, note, after, cause, last, ?_⟩
    rw [current, values]
    exact asks
  case oldest =>
    intro e mem before note after last
    exact oldest e last
  case upToDate_iff =>
    intro e mem before note after last
    obtain ⟨cause, asks⟩ := steady.kept.tells.current mem last
    rw [oldest e last, due_of_asks asks, current, values, List.getLast?_cons]
    cases (due e before).getLast? with
    | none => simp [history]
    | some call => simp

/-- An observer that raises the priority when it is told of it, and one behind it that only
listens. -/
def overtakenSample : List Action :=
  [.observe "first" "hyperclick_priority" "raiser" [[], [.set "hyperclick_priority" (.integer 2)]],
   .observe "second" "hyperclick_priority" "hearer" [],
   .set "hyperclick_priority" (.integer 1)]

theorem bringsCalm_overtakenSample :
  ∀ a ∈ overtakenSample, a.BringsCalm
  := by
  have fits : Store.checkValue "hyperclick_priority" (.integer 2) = .ok ⟨.hyperclickPriority, 2⟩ :=
    rfl
  simp [overtakenSample, Action.BringsCalm, scriptIsCalm, partIsCalm, Action.IsCalm, fits]

theorem hearsLast_sample :
  (∀ a ∈ overtakenSample, a.BringsCalm) ∧ (start {}).HearsLast overtakenSample
  := ⟨bringsCalm_overtakenSample, hearsLast {} bringsCalm_overtakenSample⟩

/-- The second observer is still registered when the priority has become 2, and what it has
heard last is that it is 1. -/
theorem ends_with_overtaken_value :
  let s := (start {}).performAll overtakenSample
  (Field.hyperclickPriority, "hearer") ∈ s.store.observers ∧
    s.store.settings.hyperclickPriority = 2 ∧
      s.calls.find? (·.observer = "hearer") = some ⟨"hearer", .hyperclickPriority, (1 : Int)⟩
  := by
  have ends : performAllWithin 12 (start {}) overtakenSample = some
      { store :=
          { settings := { hyperclickPriority := 2 }
            observers := [(.hyperclickPriority, "raiser"), (.hyperclickPriority, "hearer")] }
        scripts := [("raiser", []), ("hearer", [])]
        subscriptions :=
          [("second", .hyperclickPriority, "hearer"), ("first", .hyperclickPriority, "raiser")]
        copies := []
        calls := [(1, "hearer"), (2, "hearer"), (2, "raiser"), (1, "raiser"), (0, "hearer"),
          (0, "raiser")].map fun (n, observer) =>
            ⟨observer, .hyperclickPriority, (n : Int)⟩ } := rfl
  rw [performAll_of_within ends]
  exact ⟨by decide, rfl, rfl⟩

end Session

end TypeCoverage.Settings
